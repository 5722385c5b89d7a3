import ClientAccess.Entries

/-! Maps as sorted lists. Pairs with increasing keys are put in at the end, so the list of a map is
its own map, and looking a key up is looking for it in the list. -/
namespace ClientAccess.Entries

variable {α : Type}

theorem get?_eraseAll (e : Entries α) (keys : List String) (k : String) :
    (e.eraseAll keys).get? k = if k ∈ keys then none else e.get? k := by
  induction keys generalizing e with
  | nil => simp [eraseAll]
  | cons key keys ih =>
    have hstep : (e.eraseAll (key :: keys)).get? k = ((e.erase key).eraseAll keys).get? k := rfl
    rw [hstep, ih, get?_erase]
    by_cases hk : k ∈ keys
    · simp [hk]
    · simp [hk, eq_comm]

theorem find?_append (key : String) (xs ys : List (String × α)) :
    find? key (xs ++ ys) = (find? key xs).or (find? key ys) := by
  induction xs with
  | nil => rfl
  | cons p rest ih =>
    by_cases hkey : p.1 = key
    · simp [find?, hkey]
    · simp [find?, hkey, ih]

theorem get?_insertAll (e : Entries α) (pairs : List (String × α)) (k : String) :
    (e.insertAll pairs).get? k = (find? k pairs.reverse).or (e.get? k) := by
  induction pairs generalizing e with
  | nil => rfl
  | cons p rest ih =>
    have hstep : (e.insertAll (p :: rest)).get? k = ((e.insert p.1 p.2).insertAll rest).get? k :=
      rfl
    rw [hstep, ih, get?_insert, List.reverse_cons, find?_append, Option.or_assoc]
    by_cases hk : p.1 = k
    · simp [find?, hk]
    · simp [find?, hk]

theorem get?_ofList (pairs : List (String × α)) (k : String) :
    (ofList pairs).get? k = find? k pairs.reverse := by
  rw [ofList, get?_insertAll, get?_empty, Option.or_none]

theorem find?_map {β : Type} (f : α → β) (key : String) (items : List (String × α)) :
    find? key (items.map fun p => (p.1, f p.2)) = (find? key items).map f := by
  induction items with
  | nil => rfl
  | cons p rest ih =>
    by_cases hkey : p.1 = key
    · simp [find?, hkey]
    · simp [find?, hkey, ih]

theorem put_last {key : String} {value : α} {items : List (String × α)}
    (h : ∀ p ∈ items, p.1 < key) : put key value items = items ++ [(key, value)] := by
  induction items with
  | nil => rfl
  | cons p rest ih =>
    have hp : p.1 < key := h p List.mem_cons_self
    have hnot : ¬ key < p.1 := fun hlt => String.lt_irrefl _ (String.lt_trans hp hlt)
    have hrest := ih fun q hq => h q (List.mem_cons_of_mem p hq)
    simp [put, hp, hnot, hrest]

theorem mem_put {key : String} {value : α} {items : List (String × α)} {p : String × α}
    (h : p ∈ put key value items) : p = (key, value) ∨ p ∈ items := by
  induction items with
  | nil => simpa [put] using h
  | cons q rest ih =>
    simp only [put] at h
    split at h
    · simpa using h
    · split at h
      · rcases List.mem_cons.1 h with h | h
        · exact .inr (h ▸ List.mem_cons_self)
        · exact (ih h).imp_right (List.mem_cons_of_mem q)
      · rcases List.mem_cons.1 h with h | h
        · exact .inl h
        · exact .inr (List.mem_cons_of_mem q h)

theorem mem_insertAll {e : Entries α} {pairs : List (String × α)} {p : String × α}
    (h : p ∈ (e.insertAll pairs).items) : p ∈ e.items ∨ p ∈ pairs := by
  induction pairs generalizing e with
  | nil => exact .inl h
  | cons q qs ih =>
    have hstep : (e.insertAll (q :: qs)).items = ((e.insert q.1 q.2).insertAll qs).items := rfl
    rw [hstep] at h
    rcases ih h with h | h
    · rcases mem_put h with rfl | h
      · exact .inr List.mem_cons_self
      · exact .inl h
    · exact .inr (List.mem_cons_of_mem q h)

theorem mem_of_mem_ofList {pairs : List (String × α)} {p : String × α}
    (h : p ∈ (ofList pairs).items) : p ∈ pairs := by
  rcases mem_insertAll h with h | h
  · cases h
  · exact h

theorem items_insertAll (e : Entries α) (pairs : List (String × α))
    (h : ((e.items ++ pairs).map Prod.fst).Pairwise (· < ·)) :
    (e.insertAll pairs).items = e.items ++ pairs := by
  induction pairs generalizing e with
  | nil => simp [insertAll]
  | cons p ps ih =>
    have hbelow : ∀ q ∈ e.items, q.1 < p.1 := by
      intro q hq
      rw [List.map_append, List.pairwise_append] at h
      exact h.2.2 q.1 (List.mem_map_of_mem hq) p.1 (by simp)
    have hfirst : (e.insert p.1 p.2).items = e.items ++ [p] := put_last hbelow
    have hstep : (e.insertAll (p :: ps)).items = ((e.insert p.1 p.2).insertAll ps).items := rfl
    rw [hstep, ih (e.insert p.1 p.2) (by simpa [hfirst] using h), hfirst]
    simp

theorem items_ofList {pairs : List (String × α)} (h : (pairs.map Prod.fst).Pairwise (· < ·)) :
    (ofList pairs).items = pairs :=
  items_insertAll empty pairs h

theorem ofList_items (e : Entries α) : ofList e.items = e :=
  ext_items (items_ofList e.sorted)

theorem items_ofList_filter {pairs : List (String × α)} (keep : String × α → Bool)
    (h : (pairs.map Prod.fst).Pairwise (· < ·)) :
    (ofList (pairs.filter keep)).items = pairs.filter keep := by
  apply items_ofList
  exact h.sublist (List.filter_sublist.map Prod.fst)

theorem mem_of_find? {key : String} {value : α} {items : List (String × α)}
    (h : find? key items = some value) : (key, value) ∈ items := by
  induction items with
  | nil => cases h
  | cons p rest ih =>
    simp only [find?] at h
    split at h
    · next hkey =>
      cases h
      simp [← hkey]
    · exact List.mem_cons_of_mem p (ih h)

theorem find?_eq_none_iff (key : String) (items : List (String × α)) :
    find? key items = none ↔ ∀ p ∈ items, p.1 ≠ key := by
  induction items with
  | nil => simp [find?]
  | cons p rest ih =>
    by_cases hkey : p.1 = key
    · simp [find?, hkey]
    · simp [find?, hkey, ih]

theorem find?_filter {key : String} {keep : String × α → Bool}
    (h : ∀ value, keep (key, value) = true) (items : List (String × α)) :
    find? key (items.filter keep) = find? key items := by
  induction items with
  | nil => rfl
  | cons p rest ih =>
    obtain ⟨k, v⟩ := p
    by_cases hkey : k = key
    · subst hkey
      simp [h, find?]
    · cases hkeep : keep (k, v) <;> simp [hkeep, find?, hkey, ih]

theorem find?_eq_none_of_lt {key : String} {items : List (String × α)}
    (h : ∀ p ∈ items, key < p.1) : find? key items = none := by
  rw [find?_eq_none_iff]
  intro p hp he
  exact String.lt_irrefl _ (he ▸ h p hp)

theorem items_eq_of_find? {xs ys : List (String × α)} (hx : (xs.map Prod.fst).Pairwise (· < ·))
    (hy : (ys.map Prod.fst).Pairwise (· < ·)) (h : ∀ key, find? key xs = find? key ys) :
    xs = ys := by
  induction xs generalizing ys with
  | nil =>
    cases ys with
    | nil => rfl
    | cons q ys => simpa [find?] using h q.1
  | cons p xs ih =>
    cases ys with
    | nil => simpa [find?] using h p.1
    | cons q ys =>
      simp only [List.map_cons, List.pairwise_cons, List.mem_map, forall_exists_index, and_imp,
        forall_apply_eq_imp_iff₂] at hx hy
      have hp : find? p.1 (p :: xs) = some p.2 := by simp [find?]
      have hq : find? q.1 (q :: ys) = some q.2 := by simp [find?]
      -- The least keys agree: the smaller of two would be found in one list only.
      have hkeys : p.1 = q.1 := by
        apply String.le_antisymm
        · rw [← String.not_lt]
          intro hlt
          have hnone : find? q.1 (p :: xs) = none := find?_eq_none_of_lt <|
            List.forall_mem_cons.2 ⟨hlt, fun r hr => String.lt_trans hlt (hx.1 r hr)⟩
          rw [h q.1, hq] at hnone
          cases hnone
        · rw [← String.not_lt]
          intro hlt
          have hnone : find? p.1 (q :: ys) = none := find?_eq_none_of_lt <|
            List.forall_mem_cons.2 ⟨hlt, fun r hr => String.lt_trans hlt (hy.1 r hr)⟩
          rw [← h p.1, hp] at hnone
          cases hnone
      have hvalues : p.2 = q.2 := by
        have hfound := h p.1
        rw [hp, hkeys, hq] at hfound
        exact Option.some.inj hfound
      have hrest : xs = ys := by
        refine ih hx.2 hy.2 fun key => ?_
        by_cases hkey : p.1 = key
        · subst hkey
          rw [find?_eq_none_of_lt hx.1, find?_eq_none_of_lt (hkeys ▸ hy.1)]
        · have hfound := h key
          rwa [find?, find?, if_neg hkey, if_neg (hkeys ▸ hkey)] at hfound
      rw [hrest, Prod.ext hkeys hvalues]

theorem ext_get? {a b : Entries α} (h : ∀ key, a.get? key = b.get? key) : a = b :=
  ext_items (items_eq_of_find? a.sorted b.sorted h)

end ClientAccess.Entries
