import ClientAccess.Proofs.History.Credential
import ClientAccess.Proofs.History.Notice
import ClientAccess.Proofs.SignIn.Failure

/-! Overlapping calls. A call goes out with the token there is then and is answered later, when
there may be another session. What an answer does to the session does not depend on the request it
answers: a session that has expired is the one there is when the answer comes. -/
namespace ClientAccess

structure Pending where
  request : OutgoingRequest
  username? : Option String

/-- A state and the calls that have gone out so far, in order; `none` stands for one that has been
answered. -/
structure Traffic where
  state : State
  calls : List (Option Pending)

/-- What happens at one moment. A call is answered by its number. -/
inductive Moment where
  | goesOut (call : Call) (username? : Option String)
  | comesBack (number : Nat) (answer : Answer)
  | between (action : Action)

namespace Session.Event

theorem ofAnswer?_expired (body : Option Json) (username? : Option String) :
    ofAnswer? (.ok ⟨401, body⟩) username? = some closed := by
  cases username? <;> rfl

end Session.Event

namespace Application

open Session (Event)

/-- The traffic after a moment. There is no second answer to a call. -/
def turn (app : Application) (t : Traffic) : Moment → Traffic
  | .goesOut call username? =>
    ⟨app.sending t.state call, t.calls ++ [some ⟨app.prepare call t.state.store, username?⟩]⟩
  | .comesBack number answer =>
    match t.calls[number]? with
    | some (some pending) =>
      ⟨app.receive t.state answer pending.username?, t.calls.set number none⟩
    | some none | none => t
  | .between action => ⟨app.perform t.state action, t.calls⟩

def pass (app : Application) (t : Traffic) (moments : List Moment) : Traffic :=
  moments.foldl app.turn t

def happening? (app : Application) (t : Traffic) : Moment → Option Event
  | .goesOut _ _ => none
  | .comesBack number answer =>
    match t.calls[number]? with
    | some (some pending) => Event.ofAnswer? answer pending.username?
    | some none | none => none
  | .between action => app.event? t.state action

def happenings (app : Application) (t : Traffic) : List Moment → List Event
  | [] => []
  | m :: ms => (app.happening? t m).toList ++ happenings app (app.turn t m) ms

variable (app : Application) (t : Traffic)

theorem turn_comesBack {number : Nat} {pending : Pending}
    (h : t.calls[number]? = some (some pending)) (answer : Answer) :
    app.turn t (.comesBack number answer) =
      ⟨app.receive t.state answer pending.username?, t.calls.set number none⟩ := by
  simp only [turn, h]

theorem calls_goesOut (call : Call) (username? : Option String) :
    (app.turn t (.goesOut call username?)).calls[t.calls.length]? =
      some (some ⟨app.prepare call t.state.store, username?⟩) :=
  List.getElem?_concat_length

theorem pass_at_once (call : Call) (username? : Option String) (answer : Answer) :
    (app.pass t [.goesOut call username?, .comesBack t.calls.length answer]).state =
      app.receive (app.sending t.state call) answer username? := by
  rw [pass, List.foldl_cons, List.foldl_cons,
    turn_comesBack app _ (calls_goesOut app t call username?)]
  rfl

theorem send_at_once (call : Call) (answer : Answer) :
    (app.pass t [.goesOut call none, .comesBack t.calls.length answer]).state =
      (app.send (fun _ => answer) call t.state).2 := by
  rw [pass_at_once, send_eq_receive]
  rfl

theorem enter_at_once (entrance : Entrance) (answer : Answer) :
    (app.pass t [.goesOut entrance.call (some entrance.username),
        .comesBack t.calls.length answer]).state =
      (app.enter (fun _ => answer) t.state entrance).2 := by
  rw [pass_at_once, enter_eq, enroll_eq_receive]
  rfl

theorem store_turn (m : Moment) :
    (app.turn t m).state.store = Session.after t.state.store (app.happening? t m) := by
  cases m with
  | goesOut call username? => rfl
  | comesBack number answer =>
    simp only [turn, happening?]
    split
    · exact store_receive app t.state answer _
    · rfl
    · rfl
  | between action => exact store_perform app t.state action

theorem store_pass (moments : List Moment) :
    (app.pass t moments).state.store =
      Session.through t.state.store (app.happenings t moments) := by
  induction moments generalizing t with
  | nil => rfl
  | cons m ms ih =>
    have hstep : app.pass t (m :: ms) = app.pass (app.turn t m) ms := rfl
    rw [hstep, ih, store_turn, Session.after_eq_through, happenings, Session.through_append]

theorem calls_turn {number : Nat} {pending : Pending}
    (h : t.calls[number]? = some (some pending)) {m : Moment}
    (hm : ∀ answer, m ≠ .comesBack number answer) :
    (app.turn t m).calls[number]? = some (some pending) := by
  cases m with
  | goesOut call username? =>
    obtain ⟨hlt, -⟩ := List.getElem?_eq_some_iff.1 h
    exact (List.getElem?_append_left hlt).trans h
  | comesBack other answer =>
    have hne : other ≠ number := fun he => hm answer (he ▸ rfl)
    simp only [turn]
    split
    · exact (List.getElem?_set_ne hne).trans h
    · exact h
    · exact h
  | between action => exact h

theorem calls_pass {number : Nat} {pending : Pending}
    (h : t.calls[number]? = some (some pending)) {moments : List Moment}
    (hopen : ∀ answer, Moment.comesBack number answer ∉ moments) :
    (app.pass t moments).calls[number]? = some (some pending) := by
  induction moments generalizing t with
  | nil => exact h
  | cons m ms ih =>
    refine ih (app.turn t m) (calls_turn app t h ?_) ?_
    · intro answer he
      exact hopen answer (he ▸ List.mem_cons_self)
    · intro answer hmem
      exact hopen answer (List.mem_cons_of_mem m hmem)

theorem opened_of_token? {call : Call} {username? : Option String} {moments : List Moment}
    {current : String}
    (hcurrent : Session.token?
      (app.pass t (.goesOut call username? :: moments)).state.store = some current)
    (hother : (app.prepare call t.state.store).headers ≠ [("Authorization", current)]) :
    ∃ user, (app.happenings t (.goesOut call username? :: moments)).getLast? =
      some (.opened current user) := by
  rw [store_pass, Session.token?_through] at hcurrent
  cases hlast : (app.happenings t (.goesOut call username? :: moments)).getLast? with
  | none =>
    rw [hlast, Option.elim_none] at hcurrent
    rw [headers_prepare, hcurrent] at hother
    exact absurd rfl hother
  | some event =>
    rw [hlast, Option.elim_some] at hcurrent
    cases event with
    | closed => cases hcurrent
    | opened token user =>
      have hsame : token = current := by
        simp only [Event.token?] at hcurrent
        split at hcurrent
        · cases hcurrent
        · exact Option.some.inj hcurrent
      exact ⟨user, hsame ▸ rfl⟩

/-- A call goes out, then anything happens, with other calls going out and coming back in any order,
and then the call is answered with a status of 401. This removes both keys of the session and no
others, whatever session it is by then. If its token is not the one that went out with the call, the
last thing that has happened to the session since is that it was opened with this token. -/
theorem expiry_ends_current_session (app : Application) (t : Traffic) (call : Call)
    (username? : Option String) (moments : List Moment)
    (hopen : ∀ answer, Moment.comesBack t.calls.length answer ∉ moments) (body : Option Json) :
    (∀ key, (app.turn (app.pass t (.goesOut call username? :: moments))
        (.comesBack t.calls.length (.ok ⟨401, body⟩))).state.store.get? key =
      if key = Session.tokenKey ∨ key = Session.userKey then none
      else (app.pass t (.goesOut call username? :: moments)).state.store.get? key) ∧
    ∀ current,
      Session.token? (app.pass t (.goesOut call username? :: moments)).state.store =
        some current →
      (app.prepare call t.state.store).headers ≠ [("Authorization", current)] →
      ∃ user, (app.happenings t (.goesOut call username? :: moments)).getLast? =
        some (.opened current user) := by
  refine ⟨?_, fun current => opened_of_token? app t⟩
  have hwaits : (app.pass t (.goesOut call username? :: moments)).calls[t.calls.length]? =
      some (some ⟨app.prepare call t.state.store, username?⟩) :=
    calls_pass app (app.turn t (.goesOut call username?)) (calls_goesOut app t call username?) hopen
  rw [turn_comesBack app _ hwaits, store_receive, Event.ofAnswer?_expired]
  exact Session.get?_ending _

def newcomer : List Moment :=
  [.goesOut (.get "/api/users") none, .between .logout,
    .between (.login ⟨"bob", "pw"⟩ (.ok ⟨200, some (.obj [("data",
      .obj [("token", .str "t-2")])])⟩)),
    .comesBack 1 (.ok ⟨200, none⟩)]

theorem newcomer_signed_out :
    (∀ answer, Moment.comesBack 0 answer ∉ newcomer) ∧
    (standard.turn
      (standard.pass ⟨signedIn, []⟩ (.goesOut (.get "/api/orders") none :: newcomer))
      (.comesBack 0 (.ok ⟨401, none⟩))).state.store.get? Session.userKey = none ∧
    ∃ user, (standard.happenings ⟨signedIn, []⟩
      (.goesOut (.get "/api/orders") none :: newcomer)).getLast? = some (.opened "t-2" user) := by
  have hopen : ∀ answer, Moment.comesBack 0 answer ∉ newcomer := by simp [newcomer]
  obtain ⟨hkeys, hopened⟩ := expiry_ends_current_session standard ⟨signedIn, []⟩
    (.get "/api/orders") none newcomer hopen none
  exact ⟨hopen, hkeys Session.userKey, hopened "t-2" rfl (by decide)⟩

/-- A call that went out with the token `t-1` is still waiting when there is a session with the
token `t-2`, and its answer takes that session away. -/
theorem newer_session_lost :
    (standard.pass ⟨signedIn, []⟩ (.goesOut (.get "/api/orders") none :: newcomer)).calls =
      [some ⟨⟨"GET", "/api/orders", [], [("Authorization", "t-1")], none⟩, none⟩, none] ∧
    Session.token? (standard.pass ⟨signedIn, []⟩
      (.goesOut (.get "/api/orders") none :: newcomer)).state.store = some "t-2" ∧
    (standard.turn
      (standard.pass ⟨signedIn, []⟩ (.goesOut (.get "/api/orders") none :: newcomer))
      (.comesBack 0 (.ok ⟨401, none⟩))).state.snapshot = ⟨none, none⟩ :=
  ⟨rfl, rfl, rfl⟩

end Application

end ClientAccess
