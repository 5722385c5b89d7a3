import ClientAccess.Text.Split
/-! Blank characters and trimming. Blank is the Unicode property `White_Space`: the zero-width
space and the byte order mark are not blank, the no-break space is. -/
namespace ClientAccess.Text

/-- The 25 characters of the property `White_Space`. -/
def isBlank (c : Char) : Bool :=
  let n := c.toNat
  (0x09 ≤ n && n ≤ 0x0D) || n == 0x20 || n == 0x85 || n == 0xA0 || n == 0x1680 ||
    (0x2000 ≤ n && n ≤ 0x200A) || n == 0x2028 || n == 0x2029 || n == 0x202F ||
    n == 0x205F || n == 0x3000

def trimChars (cs : List Char) : List Char :=
  dropEnd isBlank (cs.dropWhile isBlank)

def trim (s : String) : String :=
  String.ofList (trimChars s.toList)

def isBlankText (s : String) : Bool := (trimChars s.toList).isEmpty

def dropSlashes (s : String) : String :=
  String.ofList (dropEnd (· == '/') s.toList)

end ClientAccess.Text
