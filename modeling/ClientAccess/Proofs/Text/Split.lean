import ClientAccess.Text.Split

/-! What cutting keeps. The parts of a list hold nothing that the list does not hold, and joining
parts adds nothing but the separator. A part is empty only where two separators meet. -/
namespace ClientAccess.Text

variable {sep c : Char} {cs piece : List Char} {pieces : List (List Char)}

theorem upTo_eq_self (h : sep ∉ cs) : upTo sep cs = cs := by
  induction cs with
  | nil => rfl
  | cons d ds ih =>
    simp only [List.mem_cons, not_or] at h
    have hne : (d != sep) = true := by simpa using Ne.symm h.1
    have hrest : ds.takeWhile (· != sep) = ds := ih h.2
    rw [upTo, List.takeWhile_cons, if_pos hne, hrest]

theorem not_mem_upTo (sep : Char) (cs : List Char) : sep ∉ upTo sep cs := by
  intro h
  have hall : (upTo sep cs).all (· != sep) = true := List.all_takeWhile
  have hne := List.all_eq_true.1 hall sep h
  simp at hne

theorem upTo_append (sep : Char) (cs ds : List Char) : upTo sep (cs ++ sep :: ds) = upTo sep cs := by
  induction cs with
  | nil => simp [upTo]
  | cons c cs ih =>
    rw [upTo, List.cons_append, List.takeWhile_cons, upTo, List.takeWhile_cons]
    split
    · rw [← upTo, ih, upTo]
    · rfl

theorem cutFirst_eq_none_iff : cutFirst sep cs = none ↔ sep ∉ cs := by
  induction cs with
  | nil => simp [cutFirst]
  | cons d ds ih =>
    by_cases hd : d = sep
    · simp [cutFirst, hd]
    · simp [cutFirst, hd, ih, Ne.symm hd]

theorem mem_intercalate_of_mem (h : piece ∈ pieces) (hc : c ∈ piece) :
    c ∈ [sep].intercalate pieces := by
  induction pieces with
  | nil => cases h
  | cons first rest ih =>
    cases rest with
    | nil =>
      have he : piece = first := by simpa using h
      simpa [← he] using hc
    | cons second rest =>
      rw [List.intercalate_cons_cons]
      rcases List.mem_cons.1 h with rfl | h
      · simp [hc]
      · exact List.mem_append_right _ (ih h)

theorem mem_of_mem_intercalate (h : c ∈ [sep].intercalate pieces) :
    c = sep ∨ ∃ piece ∈ pieces, c ∈ piece := by
  induction pieces with
  | nil => cases h
  | cons first rest ih =>
    cases rest with
    | nil => exact .inr ⟨first, by simp, by simpa using h⟩
    | cons second rest =>
      rw [List.intercalate_cons_cons, List.mem_append, List.mem_append, List.mem_singleton] at h
      rcases h with (h | h) | h
      · exact .inr ⟨first, by simp, h⟩
      · exact .inl h
      · rcases ih h with h | ⟨piece, hpiece, hc⟩
        · exact .inl h
        · exact .inr ⟨piece, List.mem_cons_of_mem first hpiece, hc⟩

theorem mem_of_mem_splitOn (h : piece ∈ cs.splitOn sep) (hc : c ∈ piece) : c ∈ cs := by
  have hjoin : [sep].intercalate (cs.splitOn sep) = cs := List.intercalate_splitOn sep
  rw [← hjoin]
  exact mem_intercalate_of_mem h hc

theorem not_mem_of_mem_splitOn (h : piece ∈ cs.splitOn sep) : sep ∉ piece := by
  induction cs generalizing piece with
  | nil =>
    have hp : piece = [] := by simpa [List.splitOn_nil] using h
    simp [hp]
  | cons c cs ih =>
    rw [List.splitOn_cons_eq_if_modifyHead] at h
    by_cases hc : (c == sep) = true
    · rw [if_pos hc, List.mem_cons] at h
      rcases h with rfl | h
      · simp
      · exact ih h
    · rw [if_neg hc] at h
      cases hs : cs.splitOn sep with
      | nil => exact absurd hs (List.splitOn_ne_nil sep cs)
      | cons first rest =>
        rw [hs, List.modifyHead_cons, List.mem_cons] at h
        have hne : sep ≠ c := by
          intro he
          exact hc (by simp [he])
        rcases h with rfl | h
        · have hf : sep ∉ first := ih (by simp [hs])
          simp [hne, hf]
        · exact ih (by simp [hs, h])

theorem splitOn_append {ds : List Char} (h : sep ∉ ds) (cs : List Char) :
    ∃ front last, cs.splitOn sep = front ++ [last] ∧
      (cs ++ ds).splitOn sep = front ++ [last ++ ds] := by
  induction cs with
  | nil =>
    refine ⟨[], [], List.splitOn_nil sep, ?_⟩
    induction ds with
    | nil => exact List.splitOn_nil sep
    | cons d ds ih =>
      rw [List.mem_cons, not_or] at h
      have hd : (d == sep) = false := by simpa using Ne.symm h.1
      have hrest : ds.splitOn sep = [ds] := ih h.2
      simp [List.splitOn_cons_eq_if_modifyHead, hd, hrest]
  | cons c cs ih =>
    obtain ⟨front, last, hcs, happend⟩ := ih
    rw [List.cons_append, List.splitOn_cons_eq_if_modifyHead, List.splitOn_cons_eq_if_modifyHead,
      hcs, happend]
    by_cases hc : (c == sep) = true
    · exact ⟨[] :: front, last, by simp [hc], by simp [hc]⟩
    · cases front with
      | nil => exact ⟨[], c :: last, by simp [hc], by simp [hc]⟩
      | cons first front => exact ⟨(c :: first) :: front, last, by simp [hc], by simp [hc]⟩

theorem filter_filled (h : [] ∉ pieces) : pieces.filter (fun piece => !piece.isEmpty) = pieces := by
  rw [List.filter_eq_self]
  intro piece hpiece
  have hne : piece ≠ [] := fun he => h (he ▸ hpiece)
  simpa using hne

/-- There is an empty part where two separators meet, if both ends are counted as separators; there
is one after the first part, if only the end is. -/
theorem nil_mem_splitOn_iff :
    ([] ∈ cs.splitOn sep ↔ [sep, sep] <:+: sep :: cs ++ [sep]) ∧
      ([] ∈ (cs.splitOn sep).tail ↔ [sep, sep] <:+: cs ++ [sep]) := by
  induction cs with
  | nil => simp [List.splitOn_nil, List.infix_cons_iff]
  | cons d ds ih =>
    obtain ⟨hall, htail⟩ := ih
    rw [List.splitOn_cons_eq_if_modifyHead]
    by_cases hd : d = sep
    · subst hd
      rw [if_pos (beq_self_eq_true d), List.tail_cons, hall]
      simp [List.infix_cons_iff]
    · -- The first part grows, so what is empty comes after it.
      have hparts : [] ∈ (ds.splitOn sep).modifyHead (d :: ·) ↔ [] ∈ (ds.splitOn sep).tail := by
        cases ds.splitOn sep <;> simp
      rw [if_neg (by simpa using hd), List.tail_modifyHead, hparts, htail]
      simp [List.infix_cons_iff, Ne.symm hd]

theorem pair_infix_concat_iff :
    [sep, sep] <:+: cs ++ [sep] ↔ [sep] <:+ cs ∨ [sep, sep] <:+: cs := by
  rw [List.infix_concat_iff]
  refine or_congr_left ?_
  rw [List.suffix_concat_iff]
  constructor
  · rintro (hnil | ⟨front, hfront, hsuffix⟩)
    · cases hnil
    · have hconcat : [sep] ++ [sep] = front ++ [sep] := hfront
      have he : [sep] = front := List.append_cancel_right hconcat
      rwa [he]
  · intro h
    exact .inr ⟨[sep], rfl, h⟩

end ClientAccess.Text
