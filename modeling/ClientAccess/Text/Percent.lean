import ClientAccess.Text.Ascii
/-! Percent encoding of text through its UTF-8 bytes. Encoding keeps letters, digits and `-_.~`;
decoding takes every well-formed escape and leaves a stray percent sign as it stands. -/
namespace ClientAccess.Text.Percent

def isUnreserved (c : Char) : Bool :=
  c.isAlphanum || c == '-' || c == '_' || c == '.' || c == '~'

def hexDigit (n : Nat) : Char :=
  if n < 10 then Char.ofNat (0x30 + n) else Char.ofNat (0x41 + (n - 10))

def escapeByte (b : UInt8) : List Char :=
  ['%', hexDigit (b.toNat / 16), hexDigit (b.toNat % 16)]

def encodeChar (c : Char) : List Char :=
  if isUnreserved c then [c] else (String.utf8EncodeChar c).flatMap escapeByte

def encode (s : String) : String :=
  String.ofList (s.toList.flatMap encodeChar)

def hexValue (b : UInt8) : Option UInt8 :=
  (hexValue? (Char.ofNat b.toNat)).map UInt8.ofNat

def unescape : List UInt8 → List UInt8
  | 0x25 :: h :: l :: rest =>
    match hexValue h, hexValue l with
    | some x, some y => (x * 16 + y) :: unescape rest
    | _, _ => 0x25 :: unescape (h :: l :: rest)
  | b :: rest => b :: unescape rest
  | [] => []

def decode? (s : String) : Option String :=
  String.fromUTF8? ⟨(unescape s.toUTF8.data.toList).toArray⟩

end ClientAccess.Text.Percent
