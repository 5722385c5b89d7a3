import ClientAccess.Json
import ClientAccess.Text.Ascii
/-! Numerals of JSON: their grammar as a machine that takes one character at a time, and their
value. A numeral without point and exponent that fits 64 bits is a whole number; every other one
is a double, made from as many leading digits as fit 64 bits and a power of ten. -/
namespace ClientAccess.Json

inductive Numeral.Phase where
  | sign | zero | whole | point | fraction | mark | markSign | exponent
  deriving DecidableEq, Repr

structure Numeral where
  negative : Bool
  phase : Numeral.Phase
  whole : List Nat
  fraction : List Nat
  exponentNegative : Bool
  exponent : Nat
  deriving Repr

namespace Numeral

inductive Refusal where
  | malformed
  | outOfRange
  deriving DecidableEq, Repr

def digit? (c : Char) : Option Nat := Text.digitValue? 10 c

def start (negative : Bool) (phase : Phase) (whole : List Nat) : Numeral :=
  ⟨negative, phase, whole, [], false, 0⟩

def begin? (c : Char) : Option Numeral :=
  if c = '-' then some (start true .sign [])
  else if c = '0' then some (start false .zero [0])
  else (digit? c).map fun d => start false .whole [d]

def exponentLimit : Nat := (1 <<< 31) - 1

def isNought (n : Numeral) : Bool :=
  n.whole.all (· == 0) && n.fraction.all (· == 0)

def isComplete (n : Numeral) : Bool :=
  match n.phase with
  | .zero | .whole | .fraction | .exponent => true
  | _ => false

/-- One more digit of the exponent. Past the limit the power is out of range, unless the number
is nought or the power negative. -/
def addExponent (n : Numeral) (d : Nat) : Except Refusal Numeral :=
  let exponent := n.exponent * 10 + d
  if exponentLimit < exponent ∧ !n.isNought ∧ !n.exponentNegative then .error .outOfRange
  else .ok { n with phase := .exponent, exponent }

def isMark (c : Char) : Bool := c == 'e' || c == 'E'

def next (n : Numeral) (c : Char) : Except Refusal (Option Numeral) :=
  match n.phase, digit? c with
  | .sign, some 0 => .ok (some { n with phase := .zero, whole := [0] })
  | .sign, some d => .ok (some { n with phase := .whole, whole := [d] })
  | .sign, none => .error .malformed
  | .zero, some _ => .error .malformed
  | .whole, some d => .ok (some { n with whole := n.whole ++ [d] })
  | .zero, none | .whole, none =>
    if c = '.' then .ok (some { n with phase := .point })
    else if isMark c then .ok (some { n with phase := .mark })
    else .ok none
  | .point, some d => .ok (some { n with phase := .fraction, fraction := [d] })
  | .point, none => .error .malformed
  | .fraction, some d => .ok (some { n with fraction := n.fraction ++ [d] })
  | .fraction, none =>
    if isMark c then .ok (some { n with phase := .mark }) else .ok none
  | .mark, some d => (n.addExponent d).map some
  | .mark, none =>
    if c = '+' then .ok (some { n with phase := .markSign })
    else if c = '-' then .ok (some { n with phase := .markSign, exponentNegative := true })
    else .error .malformed
  | .markSign, some d => (n.addExponent d).map some
  | .markSign, none => .error .malformed
  | .exponent, some d => (n.addExponent d).map some
  | .exponent, none => .ok none

def fits (significand d : Nat) : Bool := significand * 10 + d < 1 <<< 64

/-- The number of the leading digits that fit, and how many digits were left out. -/
def takeWhole (digits : List Nat) : Nat × Nat :=
  digits.foldl
    (fun (s, dropped) d => if dropped = 0 && fits s d then (s * 10 + d, 0) else (s, dropped + 1))
    (0, 0)

def takeFraction (significand : Nat) : List Nat → Nat × Nat
  | [] => (significand, 0)
  | d :: ds =>
    if fits significand d then
      let (s, taken) := takeFraction (significand * 10 + d) ds
      (s, taken + 1)
    else (significand, 0)

def tenPower (k : Nat) : Binary64 := (Binary64.nearest (Nat.pow 10 k) 1).getD (.zero false)

/-- A double times a power of ten, by steps of at most `10 ^ 308`, rounding at each step. -/
def scale (x : Binary64) (power : Int) : Except Refusal Binary64 :=
  if power < -308 then
    if x.isZero then .ok x
    else scale ((x.div (tenPower 308)).getD x) (power + 308)
  else if power < 0 then .ok ((x.div (tenPower power.natAbs)).getD x)
  else if power ≤ 308 then
    match x.mul (tenPower power.natAbs) with
    | some y => .ok y
    | none => .error .outOfRange
  else if x.isZero then .ok x
  else .error .outOfRange
termination_by power.natAbs
decreasing_by omega

def value (n : Numeral) : Except Refusal Json :=
  let (significand, dropped) := takeWhole n.whole
  if n.fraction.isEmpty && n.phase != .exponent && dropped == 0 &&
      (!n.negative || (significand != 0 && significand ≤ 1 <<< 63)) then
    .ok (.int (if n.negative then -(significand : Int) else significand))
  else
    let (significand, taken) := takeFraction significand n.fraction
    let exponent : Int := if n.exponentNegative then -(n.exponent : Int) else n.exponent
    let float (x : Binary64) : Json := .float { x with negative := n.negative }
    if exponentLimit < n.exponent then .ok (float (.zero false))
    else
      let x := (Binary64.nearest significand 1).getD (.zero false)
      (scale x ((dropped : Int) - taken + exponent)).map float

end ClientAccess.Json.Numeral
