import ClientAccess.Text.Canonical.Order
import ClientAccess.Text.Canonical.Pair
import ClientAccess.Text.Canonical.Single
/-! The canonical form of a text: every character taken apart, marks put in their order, and what
belongs together put together again. Two spellings of one text have the same canonical form. -/
namespace ClientAccess.Text.Canonical

/-! Korean syllables are numbered by their two or three parts. -/

def syllableBase : Nat := 0xAC00
def leadBase : Nat := 0x1100
def vowelBase : Nat := 0x1161
def tailBase : Nat := 0x11A7

def leadCount : Nat := 19
def vowelCount : Nat := 21
def tailCount : Nat := 28

def syllableParts? (n : Nat) : Option (List Nat) :=
  if syllableBase ≤ n && n < syllableBase + leadCount * vowelCount * tailCount then
    let i := n - syllableBase
    let tail := i % tailCount
    some ([leadBase + i / (vowelCount * tailCount), vowelBase + i / tailCount % vowelCount] ++
      if tail = 0 then [] else [tailBase + tail])
  else none

def syllable? (a b : Nat) : Option Nat :=
  if leadBase ≤ a && a < leadBase + leadCount && vowelBase ≤ b && b < vowelBase + vowelCount then
    some (syllableBase + ((a - leadBase) * vowelCount + (b - vowelBase)) * tailCount)
  else if syllableBase ≤ a && a < syllableBase + leadCount * vowelCount * tailCount &&
      (a - syllableBase) % tailCount == 0 && tailBase < b && b < tailBase + tailCount then
    some (a + (b - tailBase))
  else none

def depth : Nat := 4

def takeApart : Nat → Nat → List Nat
  | 0, n => [n]
  | fuel + 1, n =>
    match pairs.find? (·.whole == n) with
    | some p => takeApart fuel p.first ++ [p.second]
    | none => ((singles.lookup n).or (syllableParts? n)).getD [n]

def parts (c : Char) : List Char :=
  if c.toNat < 0x80 then [c] else (takeApart depth c.toNat).map Char.ofNat

def place (c : Char) : List Char → List Char
  | [] => [c]
  | d :: ds => if 0 < order c && order c < order d then d :: place c ds else c :: d :: ds

def arrange (cs : List Char) : List Char :=
  (cs.foldl (fun done c => place c done) []).reverse

def join? (a b : Char) : Option Char :=
  ((syllable? a.toNat b.toNat).or
    ((pairs.find? fun p => p.first == a.toNat && p.second == b.toNat).map Pair.whole)).map
      Char.ofNat

/-- Puts a letter together with what follows. `marks` are those kept apart so far, in reverse; a
mark of the same class or a later one keeps a character from the letter. -/
def joinFrom (letter : Char) (marks : List Char) : List Char → List Char
  | [] => letter :: marks.reverse
  | c :: cs =>
    let isNear := marks.head?.all fun m => order m < order c
    match if isNear then join? letter c else none with
    | some whole => joinFrom whole marks cs
    | none =>
      if order c = 0 then letter :: marks.reverse ++ joinFrom c [] cs
      else joinFrom letter (c :: marks) cs

def joinAll : List Char → List Char
  | [] => []
  | c :: cs => if order c = 0 then joinFrom c [] cs else c :: joinAll cs

/-- The canonical form. Nothing below 0x300 is a mark, so there is nothing to do there. -/
def compose (cs : List Char) : List Char :=
  if cs.all (·.toNat < 0x300) then cs else joinAll (arrange (cs.flatMap parts))

end ClientAccess.Text.Canonical
