import ClientAccess.Decimal.Shortest
/-! Writing a decimal: positional where its exponent lies in a window, with a power of ten
elsewhere. -/
namespace ClientAccess.Decimal

structure Layout where
  positionalFrom : Int
  positionalTo : Int

def zeros (n : Nat) : List Char := List.replicate n '0'

/-- The digits with a point after `places` of them; at least one digit stands on either side. -/
def positional (digits : List Char) (places : Int) : List Char :=
  match places with
  | .negSucc k => ['0', '.'] ++ zeros (k + 1) ++ digits
  | .ofNat 0 => ['0', '.'] ++ digits
  | .ofNat n =>
    if digits.length ≤ n then digits ++ zeros (n - digits.length) ++ ['.', '0']
    else digits.take n ++ '.' :: digits.drop n

def exponential (digits : List Char) (power : Int) : List Char :=
  let head := match digits with
    | [] => []
    | [d] => [d]
    | d :: ds => d :: '.' :: ds
  let mark := if power < 0 then ['e', '-'] else ['e', '+']
  head ++ mark ++ Nat.toDigits 10 power.natAbs

def Layout.chars (layout : Layout) (x : Binary64) : List Char :=
  let decimal := shortest x
  let digits := Nat.toDigits 10 decimal.digits
  let power := (digits.length : Int) + decimal.exponent - 1
  let body :=
    if layout.positionalFrom ≤ power ∧ power ≤ layout.positionalTo then
      positional digits (power + 1)
    else exponential digits power
  if x.negative then '-' :: body else body

end ClientAccess.Decimal
