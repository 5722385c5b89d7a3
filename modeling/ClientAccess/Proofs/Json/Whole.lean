import ClientAccess.Proofs.Json.Reading
import ClientAccess.Proofs.Text.Digits

/-! Whole numbers. Their digits are read one after the other, the first of them not nought unless
it is the only one, and as long as the number fits 64 bits none is left out. -/
namespace ClientAccess.Json

def ofDigits (start : Nat) (digits : List Nat) : Nat :=
  digits.foldl (fun s d => s * 10 + d) start

theorem le_ofDigits (start : Nat) (digits : List Nat) : start ≤ ofDigits start digits := by
  induction digits generalizing start with
  | nil => exact Nat.le_refl start
  | cons d ds ih =>
    have hrest := ih (start * 10 + d)
    have hstep : ofDigits start (d :: ds) = ofDigits (start * 10 + d) ds := rfl
    omega

theorem exists_digits (n : Nat) (hn : 0 < n) :
    ∃ first rest, Nat.toDigits 10 n = Nat.digitChar first :: rest.map Nat.digitChar ∧
      0 < first ∧ first < 10 ∧ (∀ d ∈ rest, d < 10) ∧ ofDigits first rest = n := by
  induction n using Nat.strongRecOn with
  | ind n ih =>
    by_cases hsmall : n < 10
    · exact ⟨n, [], Nat.toDigits_of_lt_base hsmall, hn, hsmall, by simp, rfl⟩
    · obtain ⟨first, rest, hchars, hpos, hlt, hdigits, hvalue⟩ :=
        ih (n / 10) (by omega) (by omega)
      refine ⟨first, rest ++ [n % 10], ?_, hpos, hlt, ?_, ?_⟩
      · rw [Nat.toDigits_of_base_le (by decide) (by omega), hchars]
        simp
      · intro d hd
        rcases List.mem_append.1 hd with hd | hd
        · exact hdigits d hd
        · have he : d = n % 10 := by simpa using hd
          omega
      · have hlast : ofDigits first (rest ++ [n % 10]) = ofDigits first rest * 10 + n % 10 := by
          simp [ofDigits]
        omega

theorem digitChar_ne : ∀ d < 10, 0 < d →
    isSpace (Nat.digitChar d) = false ∧ Nat.digitChar d ≠ ']' ∧ Nat.digitChar d ≠ '-' ∧
      Nat.digitChar d ≠ '0' := by
  decide

namespace Numeral

theorem digit?_digitChar : ∀ d < 10, digit? (Nat.digitChar d) = some d :=
  Text.digitValue?_digitChar

theorem value_cases {n : Numeral} {v : Json} (h : n.value = .ok v) :
    (∃ k, v = .int k) ∨ ∃ x, v = .float x := by
  unfold value at h
  simp only at h
  split at h
  · cases h
    exact .inl ⟨_, rfl⟩
  split at h
  · cases h
    exact .inr ⟨_, rfl⟩
  · generalize scale _ _ = scaled at h
    cases scaled with
    | error refusal => cases h
    | ok x =>
      cases h
      exact .inr ⟨_, rfl⟩

theorem foldl_fits (start : Nat) (digits : List Nat) (h : ofDigits start digits < 1 <<< 64) :
    digits.foldl
      (fun (s, dropped) d => if dropped = 0 && fits s d then (s * 10 + d, 0) else (s, dropped + 1))
      (start, 0) = (ofDigits start digits, 0) := by
  induction digits generalizing start with
  | nil => rfl
  | cons d ds ih =>
    have hstep : ofDigits start (d :: ds) = ofDigits (start * 10 + d) ds := rfl
    have hle := le_ofDigits (start * 10 + d) ds
    have hfits : fits start d = true := by
      simp only [fits, decide_eq_true_eq]
      omega
    rw [hstep] at h
    simpa [hfits, hstep] using ih (start * 10 + d) h

theorem takeWhole_eq {first : Nat} {rest : List Nat} (h : ofDigits first rest < 1 <<< 64) :
    takeWhole (first :: rest) = (ofDigits first rest, 0) := by
  have hsame : ofDigits 0 (first :: rest) = ofDigits first rest := by simp [ofDigits]
  rw [takeWhole, foldl_fits 0 (first :: rest) (by rw [hsame]; exact h), hsame]

theorem value_whole {negative : Bool} {first : Nat} {rest : List Nat}
    (h : ofDigits first rest < 1 <<< 64)
    (hneg : negative = true → ofDigits first rest ≠ 0 ∧ ofDigits first rest ≤ 1 <<< 63) :
    (start negative .whole (first :: rest)).value =
      .ok (.int (if negative then -(ofDigits first rest : Int) else ofDigits first rest)) := by
  unfold value
  simp only [start, takeWhole_eq h]
  cases negative with
  | false => simp
  | true =>
    obtain ⟨hne, hle⟩ := hneg rfl
    rw [if_pos (by simpa [hne] using hle)]

end Numeral

variable {limit : Nat} {stack : List Frame}

theorem takes_digits (negative : Bool) (digits rest : List Nat) (h : ∀ d ∈ rest, d < 10) :
    Machine.Takes limit ⟨stack, .numeral (Numeral.start negative .whole digits)⟩
      (rest.map Nat.digitChar)
      ⟨stack, .numeral (Numeral.start negative .whole (digits ++ rest))⟩ := by
  induction rest generalizing digits with
  | nil => simpa using Machine.Takes.nil
  | cons d ds ih =>
    have hd := Numeral.digit?_digitChar d (h d List.mem_cons_self)
    have hstep : Machine.step limit
        ⟨stack, .numeral (Numeral.start negative .whole digits)⟩ (Nat.digitChar d) =
          .ok ⟨stack, .numeral (Numeral.start negative .whole (digits ++ [d]))⟩ := by
      simp [Machine.step, Numeral.next, Numeral.start, hd]
    have hrest := ih (digits ++ [d]) fun e he => h e (List.mem_cons_of_mem d he)
    rw [List.append_assoc] at hrest
    exact Machine.Takes.cons hstep hrest

end ClientAccess.Json
