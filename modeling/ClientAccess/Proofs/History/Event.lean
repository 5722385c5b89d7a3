import ClientAccess.Application.History
import ClientAccess.Proofs.Navigation.Hops
import ClientAccess.Proofs.Session.Change
import ClientAccess.Proofs.SignIn.Enrollment

/-! The session in a history. What an action does to the session is told from its result; the store
goes through exactly these events, so the token is at any time what the last of them says, and a
call takes it along as its only header. -/
namespace ClientAccess

namespace Session

inductive Event where
  | opened (token : String) (user : Profile)
  | closed

namespace Event

def change : Event → Change
  | opened token user => establishing token user
  | closed => ending

def token? : Event → Option String
  | opened token _ => if token = "" then none else some token
  | closed => none

def ofRefusal? (refusal : Refusal) : Option Event :=
  if refusal.isExpired then some closed else none

def ofCall? : Except Refusal Json → Option Event
  | .ok _ => none
  | .error refusal => ofRefusal? refusal

/-- Who has signed in has the token of the answer. -/
def ofSignIn? (answer : Answer) : Except SignInFault Profile → Option Event
  | .ok user => answer.grantedToken?.map fun token => opened token user
  | .error (.refused refusal) => ofRefusal? refusal
  | .error (.malformed _) => none

def ofAnswer? (answer : Answer) : Option String → Option Event
  | none => ofCall? answer.outcome
  | some username => ofSignIn? answer ((answer.enrolled username).map (·.user))

end Event

def after (store : Store) : Option Event → Store
  | none => store
  | some event => store.apply event.change

theorem token?_after (store : Store) (event? : Option Event) :
    token? (after store event?) = event?.elim (token? store) Event.token? := by
  cases event? with
  | none => rfl
  | some event =>
    cases event with
    | opened token user => exact token?_establishing store token user
    | closed => exact token?_ending store

def through (store : Store) (events : List Event) : Store :=
  events.foldl (fun store event => store.apply event.change) store

theorem through_append (store : Store) (before later : List Event) :
    through store (before ++ later) = through (through store before) later :=
  List.foldl_append

theorem after_eq_through (store : Store) (event? : Option Event) :
    after store event? = through store event?.toList := by
  cases event? <;> rfl

theorem token?_through (store : Store) (events : List Event) :
    token? (through store events) = events.getLast?.elim (token? store) Event.token? := by
  cases hlast : events.getLast? with
  | none =>
    rw [List.getLast?_eq_none_iff.1 hlast]
    rfl
  | some last =>
    obtain ⟨before, rfl⟩ := List.getLast?_eq_some_iff.1 hlast
    rw [through_append]
    exact token?_after (through store before) (some last)

end Session

namespace Application

open Session (Event)

variable (app : Application) (transport : Transport) (s : State)

/-- What an action does to the session. Only its result is looked at, and for a session that is
opened the token in the answer. -/
def event? : Action → Option Event
  | .establish token user => some (.opened token user)
  | .clear | .logout => some .closed
  | .login credentials answer =>
    Event.ofSignIn? answer (app.login (fun _ => answer) credentials s).1
  | .register registration answer =>
    Event.ofSignIn? answer (app.register (fun _ => answer) registration s).1
  | .send call answer => Event.ofCall? (app.send (fun _ => answer) call s).1
  | .navigate _ | .push _ | .evaluate _ => none

def events (app : Application) (s : State) : List Action → List Event
  | [] => []
  | a :: as => (app.event? s a).toList ++ events app (app.perform s a) as

theorem store_reject (refusal : Refusal) :
    (app.reject refusal s).store = Session.after s.store (Event.ofRefusal? refusal) := by
  unfold reject Event.ofRefusal?
  cases refusal.isExpired with
  | true =>
    simp only [if_true, store_push]
    rfl
  | false => rfl

theorem store_receive (answer : Answer) (username? : Option String) :
    (app.receive s answer username?).store =
      Session.after s.store (Event.ofAnswer? answer username?) := by
  cases username? with
  | none =>
    simp only [receive, settle_eq, Event.ofAnswer?]
    cases answer.outcome with
    | ok value => rfl
    | error refusal => exact store_reject app s refusal
  | some username =>
    simp only [receive, Event.ofAnswer?]
    cases hgrant : answer.enrolled username with
    | ok grant =>
      have htoken := (Answer.grantedToken?_of_enrolled hgrant).1
      simp only [Except.map, Event.ofSignIn?, htoken, Option.map_some]
      rfl
    | error fault =>
      cases fault with
      | refused refusal => exact store_reject app s refusal
      | malformed fault => rfl

theorem store_send (call : Call) :
    (app.send transport call s).2.store =
      Session.after s.store (Event.ofCall? (app.send transport call s).1) := by
  rw [send_eq_receive, store_receive, send_fst]
  rfl

theorem store_enroll (username : String) (call : Call) :
    (app.enroll transport username call s).2.store =
      Session.after s.store (Event.ofSignIn? (app.answerTo transport s call)
        (app.enroll transport username call s).1) := by
  rw [enroll_eq_receive, store_receive, enroll_fst]
  rfl

@[simp] theorem store_evaluate (visit : Match) : (app.evaluate visit s).2.store = s.store := by
  rcases evaluate_snd app visit s with hsame | hsame
  · rw [hsame]
  · rw [hsame]
    rfl

theorem store_perform (a : Action) :
    (app.perform s a).store = Session.after s.store (app.event? s a) := by
  cases a with
  | establish token user => rfl
  | clear => rfl
  | login credentials answer => exact store_enroll app (fun _ => answer) s _ _
  | register registration answer => exact store_enroll app (fun _ => answer) s _ _
  | logout =>
    simp only [perform, logout, store_push]
    rfl
  | send call answer => exact store_send app (fun _ => answer) s call
  | navigate target => exact store_navigate app target s
  | push path => exact store_push app path s
  | evaluate visit => exact store_evaluate app s visit

theorem store_replay (actions : List Action) :
    (app.replay s actions).store = Session.through s.store (app.events s actions) := by
  induction actions generalizing s with
  | nil => rfl
  | cons a as ih =>
    rw [replay_cons, ih, store_perform, Session.after_eq_through, events, Session.through_append]

theorem token?_replay (actions : List Action) :
    Session.token? (app.replay s actions).store =
      (app.events s actions).getLast?.elim (Session.token? s.store) Event.token? := by
  rw [store_replay, Session.token?_through]

end Application

end ClientAccess
