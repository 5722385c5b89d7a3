import ClientAccess.Text.Ascii
import Mathlib.Data.List.Induction
import Mathlib.Data.Nat.Digits.Defs

/-! Decimal digits. The ten of them are the characters of the numbers below ten, and a number is read
from a row of them, the last one counting for ones. -/
namespace ClientAccess.Text

variable {cs : List Char} {c : Char} {d n : Nat}

theorem digitValue?_digitChar : ∀ d < 10, digitValue? 10 (Nat.digitChar d) = some d := by decide

theorem digitValue?_eq_some_iff : digitValue? 10 c = some d ↔ c = Nat.digitChar d ∧ d < 10 := by
  constructor
  · intro h
    rw [digitValue?, Option.filter_eq_some_iff, decide_eq_true_eq] at h
    obtain ⟨hvalue, hlt⟩ := h
    refine ⟨Char.toNat_inj.1 ?_, hlt⟩
    rw [Nat.toNat_digitChar_of_lt_ten hlt]
    unfold hexValue? at hvalue
    split at hvalue
    · next hc =>
      have hlow : '0'.toNat ≤ c.toNat := hc.1
      cases hvalue
      show c.toNat = 48 + (c.toNat - 48)
      exact (Nat.add_sub_of_le hlow).symm
    -- The letters have values from ten on.
    split at hvalue
    · cases hvalue
      omega
    split at hvalue
    · cases hvalue
      omega
    · cases hvalue
  · intro ⟨hc, hlt⟩
    rw [hc]
    exact digitValue?_digitChar d hlt

theorem exists_digitChar (h : c.isDigit = true) : ∃ d < 10, c = Nat.digitChar d := by
  obtain ⟨hlow, hhigh⟩ : 48 ≤ c.toNat ∧ c.toNat ≤ 57 := Char.isDigit_iff_toNat.1 h
  refine ⟨c.toNat - 48, by omega, Char.toNat_inj.1 ?_⟩
  rw [Nat.toNat_digitChar_of_lt_ten (by omega)]
  omega

theorem readDigits?_concat (base : Nat) (cs : List Char) (c : Char) :
    readDigits? base (cs ++ [c]) =
      (readDigits? base cs).bind fun n => (digitValue? base c).map fun d => n * base + d := by
  rw [readDigits?, List.foldlM_append]
  simp only [List.foldlM_cons, List.foldlM_nil, bind_pure]
  rfl

theorem readDigits?_eq_some_iff : readDigits? 10 cs = some n ↔ ∃ ds : List Nat,
    (∀ d ∈ ds, d < 10) ∧ cs = ds.map Nat.digitChar ∧ n = Nat.ofDigits 10 ds.reverse := by
  induction cs using List.reverseRecOn generalizing n with
  | nil =>
    constructor
    · intro h
      cases h
      exact ⟨[], List.forall_mem_nil _, rfl, rfl⟩
    · intro ⟨ds, _, hcs, hn⟩
      rw [hn, List.map_eq_nil_iff.1 hcs.symm]
      rfl
  | append_singleton cs c ih =>
    rw [readDigits?_concat, Option.bind_eq_some_iff]
    simp only [Option.map_eq_some_iff, digitValue?_eq_some_iff, ih]
    constructor
    · intro ⟨m, ⟨ds, hds, hcs, hm⟩, d, ⟨hc, hlt⟩, hn⟩
      refine ⟨ds ++ [d], ?_, by simp [hcs, hc], ?_⟩
      · exact List.forall_mem_append.2 ⟨hds, List.forall_mem_singleton.2 hlt⟩
      · rw [List.reverse_concat, Nat.ofDigits_cons, ← hn, ← hm, Nat.mul_comm, Nat.add_comm]
    · intro ⟨ds, hds, hcs, hn⟩
      obtain ⟨front, back, rfl, hfront, hback⟩ := List.append_eq_map_iff.1 hcs
      obtain ⟨d, rfl, hc⟩ := List.map_eq_singleton_iff.1 hback
      obtain ⟨hbefore, hlast⟩ := List.forall_mem_append.1 hds
      refine ⟨_, ⟨front, hbefore, hfront.symm, rfl⟩, d, ⟨hc.symm, hlast d (by simp)⟩, ?_⟩
      rw [hn, List.reverse_concat, Nat.ofDigits_cons, Nat.mul_comm, Nat.add_comm]

end ClientAccess.Text
