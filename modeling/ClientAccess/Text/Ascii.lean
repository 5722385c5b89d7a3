/-! ASCII letters and digits: case, and numbers in a base up to sixteen. -/
namespace ClientAccess.Text

def lowerAscii (s : String) : String :=
  String.ofList (s.toList.map Char.toLower)

def hexValue? (c : Char) : Option Nat :=
  if '0' ≤ c ∧ c ≤ '9' then some (c.toNat - '0'.toNat)
  else if 'a' ≤ c ∧ c ≤ 'f' then some (c.toNat - 'a'.toNat + 10)
  else if 'A' ≤ c ∧ c ≤ 'F' then some (c.toNat - 'A'.toNat + 10)
  else none

def digitValue? (base : Nat) (c : Char) : Option Nat :=
  (hexValue? c).filter (· < base)

def isDigit (c : Char) : Bool := (digitValue? 10 c).isSome

/-- The number that digits write, the first the most significant; no digits write nought. -/
def readDigits? (base : Nat) (cs : List Char) : Option Nat :=
  cs.foldlM (fun n c => (digitValue? base c).map fun d => n * base + d) 0

end ClientAccess.Text
