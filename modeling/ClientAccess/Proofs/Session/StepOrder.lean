import ClientAccess.Proofs.History.Event

/-! The order of single steps. A store without batches carries the events of a session out key by
key, and may be found between any two of these steps. The profile is written before the token and
removed after it, so a token is never found without a profile. -/
namespace ClientAccess

namespace Store

def takeStep (s : Store) (step : KeyStep) : Store := { s with entries := s.entries.applyStep step }

def takeSteps (s : Store) (steps : List KeyStep) : Store := steps.foldl takeStep s

variable {s : Store}

theorem takeSteps_append (s : Store) (before later : List KeyStep) :
    s.takeSteps (before ++ later) = (s.takeSteps before).takeSteps later :=
  List.foldl_append

theorem kind_takeSteps (s : Store) (steps : List KeyStep) : (s.takeSteps steps).kind = s.kind := by
  induction steps generalizing s with
  | nil => rfl
  | cons step steps ih => exact ih (s.takeStep step)

theorem takeSteps_eq (s : Store) (steps : List KeyStep) :
    s.takeSteps steps = { s with entries := steps.foldl Entries.applyStep s.entries } := by
  induction steps generalizing s with
  | nil => rfl
  | cons step steps ih => exact ih (s.takeStep step)

theorem apply_eq_takeSteps (hkind : s.kind = .single) (change : Change) :
    s.apply change = s.takeSteps change.keySteps := by
  rw [takeSteps_eq]
  simp only [apply, operations, hkind, Disk.performAll]

theorem get?_takeStep_set (s : Store) (key value k : String) :
    (s.takeStep (.set key value)).get? k = if key = k then some value else s.get? k :=
  Entries.get?_insert s.entries key value k

theorem get?_takeStep_remove (s : Store) (key k : String) :
    (s.takeStep (.remove key)).get? k = if key = k then none else s.get? k :=
  Entries.get?_erase s.entries key k

end Store

namespace Session

def steps (events : List Event) : List KeyStep := events.flatMap fun event => event.change.keySteps

/-- A token that is there has a profile beside it. -/
def Backed (s : Store) : Prop := (s.get? tokenKey).isSome → (s.get? userKey).isSome

variable {s : Store}

theorem through_eq_takeSteps (hkind : s.kind = .single) (events : List Event) :
    through s events = s.takeSteps (steps events) := by
  induction events generalizing s with
  | nil => rfl
  | cons event events ih =>
    have hnext : s.apply event.change = s.takeSteps event.change.keySteps :=
      Store.apply_eq_takeSteps hkind event.change
    have hrest : through s (event :: events) = through (s.apply event.change) events := rfl
    rw [hrest, hnext, ih ((Store.kind_takeSteps s _).trans hkind), ← Store.takeSteps_append]
    rfl

theorem backed_set_user (s : Store) (text : String) : Backed (s.takeStep (.set userKey text)) := by
  intro _
  rw [Store.get?_takeStep_set, if_pos rfl]
  rfl

theorem backed_remove_token (s : Store) : Backed (s.takeStep (.remove tokenKey)) := by
  intro htoken
  rw [Store.get?_takeStep_remove, if_pos rfl] at htoken
  cases htoken

theorem backed_set_token (huser : (s.get? userKey).isSome) (token : String) :
    Backed (s.takeStep (.set tokenKey token)) := by
  intro _
  rw [Store.get?_takeStep_set, if_neg (by decide)]
  exact huser

theorem backed_remove_user (htoken : s.get? tokenKey = none) :
    Backed (s.takeStep (.remove userKey)) := by
  intro hleft
  rw [Store.get?_takeStep_remove, if_neg (by decide), htoken] at hleft
  cases hleft

theorem Backed.within (h : Backed s) (event : Event) (n : Nat) :
    Backed (s.takeSteps (event.change.keySteps.take n)) := by
  cases event with
  | opened token user =>
    match n with
    | 0 => exact h
    | 1 => exact backed_set_user s user.encode
    | n + 2 =>
      have hwritten : ((s.takeStep (.set userKey user.encode)).get? userKey).isSome := by
        rw [Store.get?_takeStep_set, if_pos rfl]
        rfl
      rw [List.take_of_length_le (Nat.le_add_left 2 n)]
      exact backed_set_token hwritten token
  | closed =>
    match n with
    | 0 => exact h
    | 1 => exact backed_remove_token s
    | n + 2 =>
      have hremoved : (s.takeStep (.remove tokenKey)).get? tokenKey = none := by
        rw [Store.get?_takeStep_remove, if_pos rfl]
      rw [List.take_of_length_le (Nat.le_add_left 2 n)]
      exact backed_remove_user hremoved

theorem Backed.takeSteps (h : Backed s) (events : List Event) (n : Nat) :
    Backed (s.takeSteps ((steps events).take n)) := by
  induction events generalizing s n with
  | nil =>
    rw [steps, List.flatMap_nil, List.take_nil]
    exact h
  | cons event events ih =>
    have hsteps : steps (event :: events) = event.change.keySteps ++ steps events := rfl
    rw [hsteps, List.take_append, Store.takeSteps_append]
    -- A run that stops within the first event has no step of the later ones.
    by_cases hn : n ≤ event.change.keySteps.length
    · rw [Nat.sub_eq_zero_of_le hn, List.take_zero]
      exact h.within event n
    · have hall : event.change.keySteps.take n = event.change.keySteps :=
        List.take_of_length_le (Nat.le_of_not_le hn)
      have hfirst : Backed (s.takeSteps (event.change.keySteps.take n)) := h.within event n
      rw [hall] at hfirst ⊢
      exact ih hfirst (n - event.change.keySteps.length)

/-- A store without batches goes from event to event through its single steps. If a token in it has
a profile beside it to begin with, that is so again after any number of these steps, within an event
as well as between two, so wherever a run is interrupted no token is left without a profile. -/
theorem backed_at_interruption (s : Store) (hkind : s.kind = .single) (h : Backed s)
    (events : List Event) :
    through s events = s.takeSteps (steps events) ∧
    ∀ n, Backed (s.takeSteps ((steps events).take n)) :=
  ⟨through_eq_takeSteps hkind events, h.takeSteps events⟩

def renewals : List Event :=
  [.opened "t-1" ⟨"1", none, .empty⟩, .opened "t-2" ⟨"2", none, .empty⟩, .closed,
    .opened "" ⟨"3", none, .empty⟩]

theorem renewals_interrupted :
    let s : Store := ⟨.single, .empty, .empty⟩
    Backed s ∧ (∀ n, Backed (s.takeSteps ((steps renewals).take n))) ∧
    (s.takeSteps ((steps renewals).take 3)).entries.items =
      [("auth_token", "t-1"), ("auth_user", (⟨"2", none, .empty⟩ : Profile).encode)] ∧
    ((s.takeSteps ((steps renewals).take 5)).get? tokenKey = none ∧
      ((s.takeSteps ((steps renewals).take 5)).get? userKey).isSome) := by
  intro s
  have hstart : Backed s := fun h => by cases h
  refine ⟨hstart, (backed_at_interruption s rfl hstart renewals).2, rfl, rfl, rfl⟩

example : ¬ Backed (Store.takeSteps ⟨.single, .empty, .empty⟩ [.set tokenKey "t-1"]) := by
  intro h
  cases h rfl

end Session

end ClientAccess
