import ClientAccess.Proofs.Json.Soundness

/-! The numbers in a value. Those in the normal form of a value are among its own, and those in a
value that a text writes are doubles or whole numbers of 64 bits. So a value that has been read is
one of whole numbers as soon as it holds no double. -/
namespace ClientAccess.Json

mutual
def numbers : Json → List Json
  | int n => [int n]
  | float x => [float x]
  | arr items => numbersItems items
  | obj members => numbersMembers members
  | _ => []

def numbersItems : List Json → List Json
  | [] => []
  | j :: js => numbers j ++ numbersItems js

def numbersMembers : List (String × Json) → List Json
  | [] => []
  | (_, j) :: ms => numbers j ++ numbersMembers ms
end

theorem numbersItems_cons (j : Json) (js : List Json) :
    numbersItems (j :: js) = j.numbers ++ numbersItems js := rfl

theorem numbersMembers_cons (key : String) (j : Json) (ms : List (String × Json)) :
    numbersMembers ((key, j) :: ms) = j.numbers ++ numbersMembers ms := rfl

variable {cs w : List Char} {t : Token} {ts : List Token} {v : Json}

theorem mem_numbersMembers {ms : List (String × Json)} :
    v ∈ numbersMembers ms ↔ ∃ p ∈ ms, v ∈ p.2.numbers := by
  induction ms with
  | nil => simp [numbersMembers]
  | cons p ms ih =>
    obtain ⟨key, j⟩ := p
    rw [numbersMembers_cons, List.mem_append, ih]
    simp

mutual
theorem isWhole_of_numbers : ∀ j : Json, (∀ v ∈ j.numbers, v.isWhole = true) → j.isWhole = true
  | .null, _ => rfl
  | .bool _, _ => rfl
  | .int n, h => h (int n) (List.mem_singleton_self _)
  | .float x, h => h (float x) (List.mem_singleton_self _)
  | .str _, _ => rfl
  | .arr items, h => isWholeItems_of_numbers items h
  | .obj members, h => isWholeMembers_of_numbers members h

theorem isWholeItems_of_numbers : ∀ js : List Json, (∀ v ∈ numbersItems js, v.isWhole = true) →
    isWholeItems js = true
  | [], _ => rfl
  | j :: js, h => by
    obtain ⟨hfirst, hrest⟩ := List.forall_mem_append.1 h
    rw [isWholeItems_cons, isWhole_of_numbers j hfirst, isWholeItems_of_numbers js hrest]
    rfl

theorem isWholeMembers_of_numbers : ∀ ms : List (String × Json),
    (∀ v ∈ numbersMembers ms, v.isWhole = true) → isWholeMembers ms = true
  | [], _ => rfl
  | (key, j) :: ms, h => by
    obtain ⟨hfirst, hrest⟩ := List.forall_mem_append.1 h
    rw [isWholeMembers_cons, isWhole_of_numbers j hfirst, isWholeMembers_of_numbers ms hrest]
    rfl
end

mutual
theorem mem_numbers_of_normal : ∀ j : Json, v ∈ j.normal.numbers → v ∈ j.numbers
  | .null, h => h
  | .bool _, h => h
  | .int _, h => h
  | .float _, h => h
  | .str _, h => h
  | .arr items, h => mem_numbersItems_of_normal items h
  | .obj members, h => by
    obtain ⟨p, hp, hv⟩ := mem_numbersMembers.1 h
    exact mem_numbersMembers_of_normal members
      (mem_numbersMembers.2 ⟨p, Entries.mem_of_mem_ofList hp, hv⟩)

theorem mem_numbersItems_of_normal : ∀ js : List Json,
    v ∈ numbersItems (normalItems js) → v ∈ numbersItems js
  | [], h => h
  | j :: js, h => by
    rw [normalItems, numbersItems_cons, List.mem_append] at h
    rw [numbersItems_cons, List.mem_append]
    exact h.imp (mem_numbers_of_normal j) (mem_numbersItems_of_normal js)

theorem mem_numbersMembers_of_normal : ∀ ms : List (String × Json),
    v ∈ numbersMembers (normalMembers ms) → v ∈ numbersMembers ms
  | [], h => h
  | (key, j) :: ms, h => by
    rw [normalMembers, numbersMembers_cons, List.mem_append] at h
    rw [numbersMembers_cons, List.mem_append]
    exact h.imp (mem_numbers_of_normal j) (mem_numbersMembers_of_normal ms)
end

mutual
theorem leaf_mem_tokens : ∀ j : Json, v ∈ j.numbers → .leaf v ∈ j.tokens
  | .int _, h => by
    rw [List.mem_singleton.1 h]
    exact List.mem_singleton_self _
  | .float _, h => by
    rw [List.mem_singleton.1 h]
    exact List.mem_singleton_self _
  | .arr items, h => by
    have hitems := leaf_mem_tokensItems items h
    simp [tokens, hitems]
  | .obj members, h => by
    have hmembers := leaf_mem_tokensMembers members h
    simp [tokens, hmembers]

theorem leaf_mem_tokensItems : ∀ js : List Json, v ∈ numbersItems js → .leaf v ∈ tokensItems js
  | [j], h => leaf_mem_tokens j (by simpa [numbersItems] using h)
  | j :: k :: js, h => by
    rw [numbersItems_cons, List.mem_append] at h
    rw [tokensItems_cons, List.mem_append]
    exact h.imp (leaf_mem_tokens j)
      fun h => List.mem_cons_of_mem _ (leaf_mem_tokensItems (k :: js) h)

theorem leaf_mem_tokensMembers : ∀ ms : List (String × Json), v ∈ numbersMembers ms →
    .leaf v ∈ tokensMembers ms
  | [(key, j)], h => by
    have hvalue := leaf_mem_tokens j (by simpa [numbersMembers] using h)
    simp [tokensMembers, hvalue]
  | (key, j) :: p :: ms, h => by
    rw [numbersMembers_cons, List.mem_append] at h
    rw [tokensMembers_cons, tokensMember, List.mem_append]
    exact h.imp (fun h => List.mem_cons_of_mem _ (List.mem_cons_of_mem _ (leaf_mem_tokens j h)))
      fun h => List.mem_cons_of_mem _ (leaf_mem_tokensMembers (p :: ms) h)
end

theorem Spells.exists_spelling (h : Spells cs ts) (ht : t ∈ ts) : ∃ w, Spelling w t := by
  induction h with
  | nil blank => cases ht
  | cons blank first rest ih =>
    rcases List.mem_cons.1 ht with rfl | ht
    · exact ⟨_, first⟩
    · exact ih ht

namespace Numeral

theorem takeWhole_lt (digits : List Nat) : (takeWhole digits).1 < 1 <<< 64 := by
  unfold takeWhole
  refine List.foldlRecOn digits _ (motive := fun state : Nat × Nat => state.1 < 1 <<< 64)
    (by decide) ?_
  intro state hstate d _
  obtain ⟨s, dropped⟩ := state
  simp only
  split
  · next hfits =>
    rw [Bool.and_eq_true] at hfits
    exact of_decide_eq_true hfits.2
  · exact hstate

theorem fitsWord_of_value {n : Numeral} {k : Int} (h : n.value = .ok (.int k)) :
    fitsWord k = true := by
  have hlt := takeWhole_lt n.whole
  unfold value at h
  simp only at h
  generalize takeWhole n.whole = taken at h hlt
  split at h
  · next hwhole =>
    simp only [Except.ok.injEq, int.injEq] at h
    cases hsign : n.negative with
    | false =>
      rw [hsign] at h
      subst h
      exact decide_eq_true hlt
    | true =>
      simp only [hsign, Bool.and_eq_true, Bool.or_eq_true, Bool.not_true, Bool.false_eq_true,
        bne_iff_ne, decide_eq_true_eq, false_or] at hwhole
      obtain ⟨-, hne, hle⟩ := hwhole
      obtain ⟨s, hs⟩ : ∃ s, taken.1 = s + 1 := ⟨taken.1 - 1, by omega⟩
      rw [hsign, hs] at h
      subst h
      show decide (s < 1 <<< 63) = true
      rw [decide_eq_true_eq]
      omega
  split at h
  · cases h
  · generalize scale _ _ = scaled at h
    cases scaled with
    | error refusal => cases h
    | ok x => cases h

end Numeral

theorem fitsWord_of_spelling {k : Int} (h : Spelling w (.leaf (.int k))) : fitsWord k = true := by
  cases h with
  | number digits value => exact Numeral.fitsWord_of_value value

/-- What a text writes is a value of whole numbers where no double is kept. -/
theorem Writes.isWhole_of_ints {text : String} {j k : Json} (h : Writes text j)
    (hk : ∀ v ∈ k.numbers, v ∈ j.numbers) (hints : ∀ v ∈ k.numbers, ∃ n, v = .int n) :
    k.isWhole = true := by
  refine isWhole_of_numbers k fun v hv => ?_
  obtain ⟨n, rfl⟩ := hints v hv
  obtain ⟨w, hw⟩ := h.exists_spelling (leaf_mem_tokens j (hk _ hv))
  exact fitsWord_of_spelling hw

end ClientAccess.Json
