import ClientAccess.Text.Blank
import Mathlib.Data.List.DropRight

/-! What trimming leaves. Between blanks at either end there is one part whose own ends are not
blank, and this is the part that is left. Slashes are dropped at one end only. -/
namespace ClientAccess.Text

variable {α : Type} {p : α → Bool} {xs ys : List α}

theorem exists_append_dropEnd (p : α → Bool) (xs : List α) :
    ∃ ys, xs = dropEnd p xs ++ ys ∧ ∀ y ∈ ys, p y = true :=
  ⟨xs.rtakeWhile p, List.rdropWhile_append_rtakeWhile.symm, fun _ => List.mem_rtakeWhile_imp⟩

theorem dropEnd_append (h : ∀ y ∈ ys, p y = true) : dropEnd p (xs ++ ys) = dropEnd p xs := by
  rw [dropEnd, List.reverse_append, List.dropWhile_append_of_pos]
  · rfl
  · intro y hy
    exact h y (List.mem_reverse.1 hy)

theorem dropEnd_eq_self_iff : dropEnd p xs = xs ↔ ∀ x ∈ xs.getLast?, p x = false := by
  have hlast : dropEnd p xs = xs ↔ ∀ hne : xs ≠ [], ¬ p (xs.getLast hne) = true :=
    List.rdropWhile_eq_self_iff
  rw [hlast]
  constructor
  · intro h x hx
    obtain ⟨hne, rfl⟩ := List.mem_getLast?_eq_getLast hx
    exact Bool.not_eq_true _ ▸ h hne
  · intro h hne
    rw [h _ (List.getLast_mem_getLast? hne)]
    exact Bool.false_ne_true

theorem not_of_mem_getLast?_dropEnd {x : α} (h : x ∈ (dropEnd p xs).getLast?) : p x = false :=
  dropEnd_eq_self_iff.1 (List.rdropWhile_idempotent p xs) x h

structure IsTrimmed (cs : List Char) : Prop where
  head : ∀ c ∈ cs.head?, isBlank c = false
  last : ∀ c ∈ cs.getLast?, isBlank c = false

theorem isTrimmed_trimChars (cs : List Char) : IsTrimmed (trimChars cs) := by
  refine ⟨?_, fun _ => not_of_mem_getLast?_dropEnd⟩
  intro c hc
  obtain ⟨after, hrest, -⟩ := exists_append_dropEnd isBlank (cs.dropWhile isBlank)
  have hfirst : (cs.dropWhile isBlank).head? = some c := by
    rw [hrest, List.head?_append, ← trimChars, hc, Option.some_or]
  have hstop := List.head?_dropWhile_not isBlank cs
  rw [hfirst] at hstop
  simpa using hstop

theorem trimChars_eq_iff {cs core : List Char} :
    trimChars cs = core ↔ IsTrimmed core ∧ ∃ before after, cs = before ++ core ++ after ∧
      (∀ c ∈ before, isBlank c = true) ∧ ∀ c ∈ after, isBlank c = true := by
  constructor
  · intro h
    subst h
    obtain ⟨after, hrest, hafter⟩ := exists_append_dropEnd isBlank (cs.dropWhile isBlank)
    refine ⟨isTrimmed_trimChars cs, cs.takeWhile isBlank, after, ?_, ?_, hafter⟩
    · rw [List.append_assoc, trimChars, ← hrest, List.takeWhile_append_dropWhile]
    · intro c hc
      exact List.all_eq_true.1 List.all_takeWhile c hc
  · rintro ⟨htrimmed, before, after, rfl, hbefore, hafter⟩
    rw [trimChars, List.append_assoc, List.dropWhile_append_of_pos hbefore]
    cases core with
    | nil =>
      have hnone : after.dropWhile isBlank = [] := List.dropWhile_eq_nil_iff.2 hafter
      rw [List.nil_append, hnone, dropEnd_nil]
    | cons c core =>
      have hc : isBlank c = false := htrimmed.head c rfl
      rw [List.cons_append, List.dropWhile_cons, hc, ← List.cons_append, if_neg Bool.false_ne_true,
        dropEnd_append hafter]
      exact dropEnd_eq_self_iff.2 htrimmed.last

theorem IsTrimmed.append {cs ds : List Char} (h : IsTrimmed cs)
    (hds : ∀ c ∈ ds, isBlank c = false) : IsTrimmed (cs ++ ds) where
  head := by
    intro c hc
    rw [List.head?_append, Option.mem_def, Option.or_eq_some_iff] at hc
    obtain hfront | ⟨-, hback⟩ := hc
    · exact h.head c hfront
    · exact hds c (List.mem_of_mem_head? hback)
  last := by
    intro c hc
    rw [List.getLast?_append, Option.mem_def, Option.or_eq_some_iff] at hc
    obtain hback | ⟨-, hfront⟩ := hc
    · exact hds c (List.mem_of_mem_getLast? hback)
    · exact h.last c hfront

theorem isBlankText_iff (s : String) :
    isBlankText s = true ↔ ∀ c ∈ s.toList, isBlank c = true := by
  rw [isBlankText, List.isEmpty_iff, trimChars_eq_iff]
  constructor
  · intro ⟨_, before, after, hs, hbefore, hafter⟩
    rw [hs, List.append_nil]
    exact List.forall_mem_append.2 ⟨hbefore, hafter⟩
  · intro h
    exact ⟨⟨by simp, by simp⟩, s.toList, [], by simp, h, List.forall_mem_nil _⟩

def slashes (n : Nat) : String := String.ofList (List.replicate n '/')

theorem trim_append_slashes (s : String) (n : Nat) :
    trim (trim s ++ slashes n) = trim s ++ slashes n := by
  have hplain : ∀ c ∈ List.replicate n '/', isBlank c = false := by
    intro c hc
    rw [List.eq_of_mem_replicate hc]
    rfl
  have hchars : (trim s ++ slashes n).toList = trimChars s.toList ++ List.replicate n '/' := by
    rw [String.toList_append, trim, slashes, String.toList_ofList, String.toList_ofList]
  have hsame : trimChars (trimChars s.toList ++ List.replicate n '/') =
      trimChars s.toList ++ List.replicate n '/' :=
    trimChars_eq_iff.2 ⟨(isTrimmed_trimChars s.toList).append hplain, [], [], by simp,
      List.forall_mem_nil _, List.forall_mem_nil _⟩
  rw [trim, hchars, hsame, ← hchars, String.ofList_toList]

theorem toList_dropSlashes (s : String) : (dropSlashes s).toList = dropEnd (· == '/') s.toList :=
  String.toList_ofList

theorem getLast?_dropSlashes (s : String) : (dropSlashes s).toList.getLast? ≠ some '/' := by
  rw [toList_dropSlashes]
  intro h
  have hslash := not_of_mem_getLast?_dropEnd h
  cases hslash

theorem dropSlashes_eq_self {s : String} (h : s.toList.getLast? ≠ some '/') : dropSlashes s = s := by
  have hchars : dropEnd (· == '/') s.toList = s.toList := by
    refine dropEnd_eq_self_iff.2 fun c hc => ?_
    rw [beq_eq_false_iff_ne]
    intro he
    exact h (he ▸ hc)
  rw [dropSlashes, hchars, String.ofList_toList]

theorem dropSlashes_append_slashes (s : String) (n : Nat) :
    dropSlashes (s ++ slashes n) = dropSlashes s := by
  have hall : ∀ c ∈ List.replicate n '/', (c == '/') = true := by
    intro c hc
    rw [List.eq_of_mem_replicate hc]
    rfl
  rw [dropSlashes, slashes, String.toList_append, String.toList_ofList, dropEnd_append hall]
  rfl

theorem dropSlashes_ne_empty {s : String} (hne : s ≠ "") (hfirst : s.toList.head? ≠ some '/') :
    dropSlashes s ≠ "" := by
  intro hempty
  obtain ⟨rest, hs, hrest⟩ := exists_append_dropEnd (· == '/') s.toList
  rw [← toList_dropSlashes, hempty, String.toList_empty, List.nil_append] at hs
  rw [hs] at hfirst
  cases rest with
  | nil => exact hne (String.toList_inj.1 hs)
  | cons c rest =>
    have hc := hrest c List.mem_cons_self
    rw [beq_iff_eq] at hc
    exact hfirst (by rw [List.head?_cons, hc])

end ClientAccess.Text
