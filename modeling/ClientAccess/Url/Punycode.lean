import ClientAccess.Text.Split
/-! The ASCII form of a label with other characters: the differences between its characters, in
increasing order, as numbers of base 36 with moving thresholds. -/
namespace ClientAccess.Url.Punycode

def digit (d : Nat) : Char :=
  if d < 26 then Char.ofNat (0x61 + d) else Char.ofNat (0x30 + (d - 26))

def threshold (k bias : Nat) : Nat :=
  if k ≤ bias then 1 else if bias + 26 ≤ k then 26 else k - bias

def shrink (delta k : Nat) : Nat :=
  if 455 < delta then shrink (delta / 35) (k + 36)
  else k + 36 * delta / (delta + 38)
termination_by delta
decreasing_by exact Nat.div_lt_self (by omega) (by omega)

def adapt (delta points : Nat) (first : Bool) : Nat :=
  let delta := if first then delta / 700 else delta / 2
  shrink (delta + delta / points) 0

theorem threshold_bounds (k bias : Nat) : 1 ≤ threshold k bias ∧ threshold k bias ≤ 26 := by
  unfold threshold
  repeat' split
  all_goals omega

def number (q k bias : Nat) : List Char :=
  let t := threshold k bias
  if q < t then [digit q]
  else digit (t + (q - t) % (36 - t)) :: number ((q - t) / (36 - t)) (k + 36) bias
termination_by q
decreasing_by
  have := threshold_bounds k bias
  exact Nat.lt_of_le_of_lt (Nat.div_le_self _ _) (by omega)

structure Progress where
  delta : Nat
  bias : Nat
  done : Nat
  output : List Char

/-- Goes over the label once for the character `n`; `basic` characters are plain. -/
def visit (n basic : Nat) (p : Progress) (c : Nat) : Progress :=
  if c < n then { p with delta := p.delta + 1 }
  else if c = n then
    { delta := 0
      bias := adapt p.delta (p.done + 1) (p.done == basic)
      done := p.done + 1
      output := p.output ++ number p.delta 36 p.bias }
  else p

def encodeFrom (label : List Nat) (basic n : Nat) (p : Progress) : List Nat → List Char
  | [] => p.output
  | m :: points =>
    let p := { p with delta := p.delta + (m - n) * (p.done + 1) }
    let p := label.foldl (visit m basic) p
    encodeFrom label basic (m + 1) { p with delta := p.delta + 1 } points

def encode (label : List Char) : List Char :=
  let plain := label.filter fun c => c.toNat < 128
  let others := ((label.map Char.toNat).filter (128 ≤ ·)).mergeSort.eraseDups
  let start := if plain.isEmpty then [] else plain ++ ['-']
  encodeFrom (label.map Char.toNat) plain.length 128 ⟨0, 72, plain.length, start⟩ others

/-! Reading the form back. -/

def digitValue? (c : Char) : Option Nat :=
  if 'a' ≤ c ∧ c ≤ 'z' then some (c.toNat - 0x61)
  else if 'A' ≤ c ∧ c ≤ 'Z' then some (c.toNat - 0x41)
  else if '0' ≤ c ∧ c ≤ '9' then some (c.toNat - 0x30 + 26)
  else none

def readNumber (weight k bias sum : Nat) : List Char → Option (Nat × List Char)
  | [] => none
  | c :: cs => do
    let d ← digitValue? c
    let t := threshold k bias
    if d < t then some (sum + d * weight, cs)
    else readNumber (weight * (36 - t)) (k + 36) bias (sum + d * weight) cs

theorem length_lt_of_readNumber {weight k bias sum n : Nat} {cs rest : List Char}
    (h : readNumber weight k bias sum cs = some (n, rest)) : rest.length < cs.length := by
  induction cs generalizing weight k sum with
  | nil => simp [readNumber] at h
  | cons c cs ih =>
    simp only [readNumber, Option.bind_eq_bind, Option.bind_eq_some_iff] at h
    obtain ⟨d, -, h⟩ := h
    split at h
    · simp only [Option.some.injEq, Prod.mk.injEq] at h
      simp [← h.2]
    · have := ih h
      simp only [List.length_cons]
      omega

/-- Puts the characters that the numbers name into `done`, going round it from place `i` and one
character higher after each round. -/
def decodeFrom (n i bias : Nat) (done cs : List Char) : Option (List Char) :=
  if cs.isEmpty then some done
  else match h : readNumber 1 36 bias 0 cs with
  | none => none
  | some (delta, rest) =>
    let size := done.length + 1
    let m := n + (i + delta) / size
    let j := (i + delta) % size
    if (Char.ofNat m).toNat = m then
      decodeFrom m (j + 1) (adapt delta size (i == 0)) (done.insertIdx j (Char.ofNat m)) rest
    else none
termination_by cs.length
decreasing_by exact length_lt_of_readNumber h

def cutPlain (cs : List Char) : List Char × List Char :=
  match Text.cutFirst '-' cs.reverse with
  | some (digits, c :: plain) => ((c :: plain).reverse, digits.reverse)
  | _ => ([], cs)

def decode (encoded : List Char) : Option (List Char) :=
  let (plain, digits) := cutPlain encoded
  if plain.all (·.toNat < 128) then decodeFrom 128 0 72 plain digits else none

end ClientAccess.Url.Punycode
