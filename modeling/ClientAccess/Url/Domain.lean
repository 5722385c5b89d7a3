import ClientAccess.Text.Canonical
import ClientAccess.Text.Marks
import ClientAccess.Url.Domain.Direction
import ClientAccess.Url.Domain.Folding
import ClientAccess.Url.Domain.Joining
import ClientAccess.Url.Domain.Permitted
import ClientAccess.Url.Punycode
/-! Domain names in any script and their ASCII form. A name is folded, each of its labels checked,
and labels with other characters than ASCII are encoded. A label that comes encoded has to be the
encoding of one that passes the same checks and that folding leaves as it is. -/
namespace ClientAccess.Url.Domain

def forbidden : List Char :=
  ['%', '#', '/', ':', '<', '>', '?', '@', '[', '\\', ']', '^', '|', '\x7f']

def isPermitted (c : Char) : Bool :=
  if c.toNat < 0x80 then 0x20 < c.toNat && !forbidden.contains c
  else Text.Table.covers permitted c

def normalize (cs : List Char) : List Char := Text.Canonical.compose (cs.flatMap fold)

/-! Joiners are invisible: each stands after a mark that takes a vowel away, or, if it is the one
that separates, between letters that would be joined. -/

def separator : Char := '\u200c'

def connector : Char := '\u200d'

def vowelKiller : Nat := 9

def meets (p : Char → Bool) (cs : List Char) : Bool :=
  match cs.dropWhile fun c => !p c && Joining.isTransparent c with
  | c :: _ => p c
  | [] => false

/-- Whether each joiner is in its place; `before` is what stands before, in reverse. -/
def joinersFit (before : List Char) : List Char → Bool
  | [] => true
  | c :: cs =>
    (c != separator && c != connector ||
      before.head?.any (Text.Canonical.order · == vowelKiller) ||
      c == separator && meets Joining.joinsNext before && meets Joining.joinsPrevious cs) &&
    joinersFit (c :: before) cs

def lengthLimit : Nat := 1000

def encodedLimit : Nat := 2000

def isAscii (cs : List Char) : Bool := cs.all (·.toNat < 0x80)

def isLabel (cs : List Char) : Bool :=
  cs.all isPermitted && !cs.head?.any Text.isMark && joinersFit [] cs &&
    (isAscii cs || cs.length ≤ lengthLimit)

def encodedMark : List Char := ['x', 'n', '-', '-']

def reveal (label : List Char) : Option (List Char) :=
  if encodedMark.isPrefixOf label then do
    let encoded := label.drop encodedMark.length
    if encodedLimit < encoded.length then failure
    let cs ← Punycode.decode encoded
    if isAscii cs || normalize cs != cs then failure
    return cs
  else some label

/-- Whether a label may stand in a name with characters that run from right to left: it begins
with a letter and keeps to the letter's direction, and it ends in a letter or a digit. -/
def keepsDirection (label : List Char) : Bool :=
  let directions := label.map Direction.ofChar
  let last := (Text.dropEnd (· == Direction.mark) directions).getLast?
  match directions.head? with
  | none => true
  | some .left =>
    directions.all (fun d => d != .right && d != .arabicNumber) &&
      last.all fun d => d == .left || d == .europeanNumber
  | some .right =>
    !directions.contains .left &&
      !(directions.contains .europeanNumber && directions.contains .arabicNumber) &&
      last.all fun d => d == .right || d == .europeanNumber || d == .arabicNumber
  | some _ => false

def runsFromRight (label : List Char) : Bool :=
  label.any fun c => Direction.ofChar c == .right || Direction.ofChar c == .arabicNumber

def encodeLabel (label : List Char) : List Char :=
  if isAscii label then label else encodedMark ++ Punycode.encode label

def toAscii (cs : List Char) : Option (List Char) := do
  let labels := (normalize cs).splitOn '.'
  let revealed ← labels.mapM reveal
  if !revealed.all isLabel then failure
  if revealed.any runsFromRight && !revealed.all keepsDirection then failure
  return ['.'].intercalate (labels.map encodeLabel)

end ClientAccess.Url.Domain
