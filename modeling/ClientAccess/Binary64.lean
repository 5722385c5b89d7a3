/-! Finite double-precision numbers as a sign, a mantissa below `2 ^ 53` and a power of two, with
rounding of exact fractions to the nearest of them. -/
namespace ClientAccess

/-- The number `± mantissa * 2 ^ exponent`. -/
structure Binary64 where
  negative : Bool
  mantissa : Nat
  exponent : Int
  deriving DecidableEq, Repr

def roundDiv (num den : Nat) : Nat :=
  let quotient := num / den
  let twice := 2 * (num % den)
  if twice < den then quotient
  else if twice = den ∧ quotient % 2 = 0 then quotient
  else quotient + 1

namespace Binary64

def leastExponent : Int := -1074

def zero (negative : Bool) : Binary64 := ⟨negative, 0, leastExponent⟩

def isZero (x : Binary64) : Bool := x.mantissa == 0

def neg (x : Binary64) : Binary64 := { x with negative := !x.negative }

def shifted (num den : Nat) (shift : Int) : Nat × Nat :=
  match shift with
  | .ofNat k => (num <<< k, den)
  | .negSucc k => (num, den <<< (k + 1))

def floorLog2 (num den : Nat) : Int :=
  let guess := (num.log2 : Int) - den.log2
  let (n, d) := shifted num den (-guess)
  if d ≤ n then guess else guess - 1

/-- The non-negative double nearest to `num / den`, a tie going to the even mantissa; nothing
when it lies beyond the greatest double. -/
def nearest (num den : Nat) : Option Binary64 :=
  if num = 0 then some (zero false)
  else
    let exponent := max (floorLog2 num den - 52) leastExponent
    let (n, d) := shifted num den (-exponent)
    let mantissa := roundDiv n d
    let (mantissa, exponent) :=
      if mantissa = 1 <<< 53 then (1 <<< 52, exponent + 1) else (mantissa, exponent)
    if exponent ≤ 971 then some ⟨false, mantissa, exponent⟩ else none

def mul (x y : Binary64) : Option Binary64 :=
  let (n, d) := shifted (x.mantissa * y.mantissa) 1 (x.exponent + y.exponent)
  nearest n d

def div (x y : Binary64) : Option Binary64 :=
  let (n, d) := shifted x.mantissa y.mantissa (x.exponent - y.exponent)
  nearest n d

end ClientAccess.Binary64
