import ClientAccess.Json.Reader

/-! Runs of the reader. A machine takes characters if its runs go on as those of another machine
after them, whatever follows and wherever in a text they stand. -/
namespace ClientAccess.Json

namespace Machine

variable {limit : Nat} {m n k : Machine} {cs ds : List Char}

/-- After `cs` every run of `m` goes on as a run of `n`. -/
def Takes (limit : Nat) (m : Machine) (cs : List Char) (n : Machine) : Prop :=
  ∀ place rest, ∃ later, m.run limit place (cs ++ rest) = n.run limit later rest

theorem run_nil_eq_ok_iff {place : Position} {v : Json} :
    m.run limit place [] = .ok v ↔ m.finish = .ok v := by
  rw [run]
  cases m.finish with
  | error cause =>
    constructor
    · intro h
      cases h
    · intro h
      cases h
  | ok w =>
    constructor
    · intro h
      cases h
      rfl
    · intro h
      cases h
      rfl

theorem run_cons_eq_ok_iff {place : Position} {c : Char} {v : Json} :
    m.run limit place (c :: cs) = .ok v ↔
      ∃ n, m.step limit c = .ok n ∧ n.run limit (place.after c) cs = .ok v := by
  rw [run]
  cases m.step limit c <;> simp

theorem Takes.nil : Takes limit m [] m := fun place _ => ⟨place, rfl⟩

theorem Takes.append (h : Takes limit m cs n) (h' : Takes limit n ds k) :
    Takes limit m (cs ++ ds) k := by
  intro place rest
  obtain ⟨middle, hfirst⟩ := h place (ds ++ rest)
  obtain ⟨later, hsecond⟩ := h' middle rest
  exact ⟨later, by rw [List.append_assoc, hfirst, hsecond]⟩

theorem Takes.cons {c : Char} (h : m.step limit c = .ok n) (h' : Takes limit n cs k) :
    Takes limit m (c :: cs) k := by
  intro place rest
  obtain ⟨later, hrest⟩ := h' (place.after c) rest
  refine ⟨later, ?_⟩
  rw [List.cons_append, run, h]
  exact hrest

theorem Takes.single {c : Char} (h : m.step limit c = .ok n) : Takes limit m [c] n :=
  Takes.cons h Takes.nil

end Machine

open Machine (Takes)

theorem readAsWritten_of_takes {limit : Nat} {text : String} {m : Machine} {v : Json}
    (h : Takes limit .initial text.toList m) (hv : m.finish = .ok v) :
    readAsWritten limit text = .ok v := by
  obtain ⟨later, hrun⟩ := h Position.start []
  rw [List.append_nil] at hrun
  rw [readAsWritten, hrun]
  exact Machine.run_nil_eq_ok_iff.2 hv

def closing (stack : List Frame) (s : String) : Purpose → Machine
  | .value => ⟨stack, .done (.str s)⟩
  | .key members => ⟨stack, .colon members s⟩

end ClientAccess.Json
