/-! Cutting lists: at a separator, and at the end. -/
namespace ClientAccess.Text

def cutFirst (sep : Char) : List Char → Option (List Char × List Char)
  | [] => none
  | c :: cs =>
    if c = sep then some ([], cs)
    else (cutFirst sep cs).map fun (a, b) => (c :: a, b)

def upTo (sep : Char) (cs : List Char) : List Char :=
  cs.takeWhile (· != sep)

theorem eq_append_of_cutFirst {sep : Char} {cs a b : List Char}
    (h : cutFirst sep cs = some (a, b)) : cs = a ++ sep :: b ∧ sep ∉ a := by
  induction cs generalizing a with
  | nil => simp [cutFirst] at h
  | cons c cs ih =>
    by_cases hc : c = sep
    · simp only [cutFirst, hc, if_true, Option.some.injEq, Prod.mk.injEq] at h
      obtain ⟨rfl, rfl⟩ := h
      simp [hc]
    · simp only [cutFirst, hc, if_false, Option.map_eq_some_iff, Prod.mk.injEq] at h
      obtain ⟨⟨x, y⟩, hxy, rfl, rfl⟩ := h
      obtain ⟨h1, h2⟩ := ih hxy
      simp [h1, h2, Ne.symm hc]

theorem cutFirst_append {sep : Char} {a : List Char} (b : List Char) (h : sep ∉ a) :
    cutFirst sep (a ++ sep :: b) = some (a, b) := by
  induction a with
  | nil => simp [cutFirst]
  | cons c a ih =>
    simp only [List.mem_cons, not_or] at h
    simp [cutFirst, Ne.symm h.1, ih h.2]

def dropEnd (p : α → Bool) (xs : List α) : List α :=
  (xs.reverse.dropWhile p).reverse

@[simp] theorem dropEnd_nil (p : α → Bool) : dropEnd p [] = [] := rfl

end ClientAccess.Text
