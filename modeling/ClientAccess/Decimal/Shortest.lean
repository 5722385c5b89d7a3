import ClientAccess.Binary64
/-! The shortest decimal that reads back as a given double, and of those the nearest to it. -/
namespace ClientAccess

structure Decimal where
  digits : Nat
  exponent : Int
  deriving DecidableEq, Repr

namespace Decimal

def digitCount (n : Nat) : Nat :=
  (Nat.toDigits 10 n).length

def floorLog10 (num den : Nat) : Int :=
  if den ≤ num then (digitCount (num / den) : Int) - 1
  else
    let count := digitCount (den / num)
    if den = num * Nat.pow 10 (count - 1) then 1 - (count : Int) else -(count : Int)

/-- The numbers that round to a double lie between `low / den` and `high / den`, ends included
where `closed`; the double itself is `value / den`. -/
structure Interval where
  low : Nat
  value : Nat
  high : Nat
  den : Nat
  closed : Bool

/-- Half way to either neighbour. Below a power of two the neighbour is half as far. -/
def Interval.ofBinary64 (x : Binary64) : Interval :=
  let below := if x.mantissa = 1 <<< 52 ∧ Binary64.leastExponent < x.exponent then 1 else 2
  let (unit, den) := Binary64.shifted 1 4 x.exponent
  { low := (4 * x.mantissa - below) * unit
    value := 4 * x.mantissa * unit
    high := (4 * x.mantissa + 2) * unit
    den
    closed := x.mantissa % 2 = 0 }

def scaled10 (n den : Nat) (k : Int) : Nat × Nat :=
  match k with
  | .ofNat j => (n * Nat.pow 10 j, den)
  | .negSucc j => (n, den * Nat.pow 10 (j + 1))

def Interval.has (i : Interval) (digits : Nat) (k : Int) : Bool :=
  let (n, d) := scaled10 digits 1 k
  let point := n * i.den
  if i.closed then i.low * d ≤ point && point ≤ i.high * d
  else i.low * d < point && point < i.high * d

/-- The better of the two neighbours of the value on the grid of step `10 ^ k`: the one in the
interval, of two the nearer, of two as near the even one. -/
def Interval.onGrid (i : Interval) (k : Int) : Option Nat :=
  let (n, d) := scaled10 i.value i.den (-k)
  let down := n / d
  let nearer := roundDiv n d
  let other := if nearer = down then down + 1 else down
  if i.has nearer k then some nearer
  else if i.has other k then some other
  else none

def strip (digits : Nat) (exponent : Int) : Decimal :=
  if digits ≠ 0 ∧ digits % 10 = 0 then strip (digits / 10) (exponent + 1) else ⟨digits, exponent⟩
termination_by digits
decreasing_by omega

def search (i : Interval) (k : Int) : Nat → Decimal
  | 0 => ⟨i.value / i.den, 0⟩
  | fuel + 1 =>
    match i.onGrid k with
    | some digits => strip digits k
    | none => search i (k - 1) fuel

/-- The shortest decimal of a double's magnitude; seventeen digits always suffice. -/
def shortest (x : Binary64) : Decimal :=
  if x.isZero then ⟨0, 0⟩
  else
    let i := Interval.ofBinary64 x
    search i (floorLog10 i.value i.den) 18

end ClientAccess.Decimal
