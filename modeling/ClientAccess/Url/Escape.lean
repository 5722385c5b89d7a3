import ClientAccess.Text.Percent
import ClientAccess.Url.Scheme
/-! What is escaped in each part of a URL. -/
namespace ClientAccess.Url

def isControl (c : Char) : Bool := c.toNat < 0x20 || 0x7F ≤ c.toNat

def inFragment (c : Char) : Bool :=
  isControl c || c == ' ' || c == '"' || c == '<' || c == '>' || c == '\x60'

def inPath (c : Char) : Bool :=
  inFragment c || c == '#' || c == '?' || c == '\x7b' || c == '\x7d'

def inUserinfo (c : Char) : Bool :=
  inPath c || ['/', ':', ';', '=', '@', '[', '\\', ']', '^', '|'].contains c

def inQuery (f : Family) (c : Char) : Bool :=
  isControl c || c == ' ' || c == '"' || c == '#' || c == '<' || c == '>' ||
    (f.isSpecial && c == '\x27')

def escape (inSet : Char → Bool) (cs : List Char) : List Char :=
  cs.flatMap fun c =>
    if inSet c then (String.utf8EncodeChar c).flatMap Text.Percent.escapeByte else [c]

end ClientAccess.Url
