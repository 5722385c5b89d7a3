import ClientAccess.Proofs.History.Credential
import ClientAccess.Proofs.Store.Reference

/-! Operations. Histories have the answers to their calls in them; here a server gives the answers,
results are told, and others may be at the disk in between. An action is its operation with a server
that answers as the action has it, so a history is a run of operations on a disk that nobody else
touches, and there is a server for every history. -/
namespace ClientAccess

def State.onDisk (s : State) (disk : Disk) : State := { s with store := s.store.onDisk disk }

namespace Application

inductive Operation where
  | get (key : String)
  | change (change : Change)
  | snapshot
  | prepare (call : Call)
  | send (call : Call)
  | login (credentials : Credentials)
  | register (registration : Registration)
  | logout
  | navigate (target : String)
  | push (path : String)
  | check (visit : Match)
  | evaluate (visit : Match)
  | report

inductive Result where
  | nothing
  | value (value : Option String)
  | session (who : Snapshot)
  | request (request : OutgoingRequest)
  | called (result : Except Refusal Json)
  | signedIn (result : Except SignInFault Profile)
  | arrived (result : Except Navigation.Refusal Location)
  | judged (decision : Decision)

/-- The result of an operation and the state after it. What becomes of a request may depend on all
the requests before it. -/
def respond (app : Application) (server : List OutgoingRequest → Transport) (s : State) :
    Operation → Result × State
  | .get key => (.value (s.store.get? key), s)
  | .change change => (.nothing, s.change change)
  | .snapshot => (.session s.snapshot, s)
  | .prepare call => (.request (app.prepare call s.store), s)
  | .send call => (app.send (server s.requests) call s).map .called id
  | .login credentials => (app.login (server s.requests) credentials s).map .signedIn id
  | .register registration => (app.register (server s.requests) registration s).map .signedIn id
  | .logout => (.nothing, app.logout s)
  | .navigate target => (app.navigate target s).map .arrived id
  | .push path => (.nothing, app.push path s)
  | .check visit => (.judged (app.check visit s), s)
  | .evaluate visit => (app.evaluate visit s).map .judged id
  | .report => (.nothing, s.notify unauthorizedMessage)

def respondAll (app : Application) (server : List OutgoingRequest → Transport) (s : State) :
    List (Disk × Operation) → List Result × State
  | [] => ([], s)
  | (disk, op) :: rest =>
    let first := app.respond server (s.onDisk disk) op
    let later := respondAll app server first.2 rest
    (first.1 :: later.1, later.2)

end Application

namespace Action

def operation : Action → Application.Operation
  | .establish token user => .change (Session.establishing token user)
  | .clear => .change Session.ending
  | .login credentials _ => .login credentials
  | .register registration _ => .register registration
  | .logout => .logout
  | .send call _ => .send call
  | .navigate target => .navigate target
  | .push path => .push path
  | .evaluate visit => .evaluate visit

def answer? : Action → Option Answer
  | .login _ answer | .register _ answer | .send _ answer => some answer
  | _ => none

end Action

namespace Application

variable {app : Application} {server other : List OutgoingRequest → Transport} {s : State}
  {a : Action} {actions : List Action}

/-- A server answers the call of an action as the action has it. -/
def Answers (app : Application) (server : List OutgoingRequest → Transport) (s : State)
    (a : Action) : Prop :=
  ∀ call, a.call? = some call → a.answer? = some (server s.requests (app.prepare call s.store))

def AnswersAll (app : Application) (server : List OutgoingRequest → Transport) :
    State → List Action → Prop
  | _, [] => True
  | s, a :: as => app.Answers server s a ∧ AnswersAll app server (app.perform s a) as

def operations (app : Application) : State → List Action → List (Disk × Operation)
  | _, [] => []
  | s, a :: as => (s.store.disk, a.operation) :: operations app (app.perform s a) as

theorem enroll_of_answer {transport : Transport} {call : Call} {answer : Answer}
    (h : transport (app.prepare call s.store) = answer) (username : String) :
    (app.enroll transport username call s).2 = (app.enroll (fun _ => answer) username call s).2 := by
  rw [enroll_eq_receive, enroll_eq_receive, answerTo, h, answerTo]

theorem respond_operation (h : app.Answers server s a) :
    (app.respond server s a.operation).2 = app.perform s a := by
  cases a with
  | login credentials answer =>
    exact enroll_of_answer (Option.some.inj (h _ rfl)).symm credentials.username
  | register registration answer =>
    exact enroll_of_answer (Option.some.inj (h _ rfl)).symm registration.username
  | send call answer =>
    have hanswer : answer = server s.requests (app.prepare call s.store) :=
      Option.some.inj (h call rfl)
    subst hanswer
    rfl
  | establish | clear | logout | navigate | push | evaluate => rfl

theorem respondAll_operations (h : app.AnswersAll server s actions) :
    (app.respondAll server s (app.operations s actions)).2 = app.replay s actions := by
  induction actions generalizing s with
  | nil => rfl
  | cons a as ih =>
    obtain ⟨hfirst, hrest⟩ := h
    have hstep : (app.respond server (s.onDisk s.store.disk) a.operation).2 = app.perform s a :=
      respond_operation hfirst
    rw [operations, respondAll, replay_cons, ← ih hrest, hstep]

theorem AnswersAll.congr (h : app.AnswersAll server s actions)
    (hsame : ∀ sent, s.requests <+: sent → server sent = other sent) :
    app.AnswersAll other s actions := by
  induction actions generalizing s with
  | nil => trivial
  | cons a as ih =>
    obtain ⟨hfirst, hrest⟩ := h
    have hmore : s.requests <+: (app.perform s a).requests := by
      rw [requests_perform]
      exact List.prefix_append _ _
    refine ⟨?_, ih hrest fun sent hsent => hsame sent (hmore.trans hsent)⟩
    intro call hcall
    rw [← hsame _ (List.prefix_refl _)]
    exact hfirst call hcall

theorem exists_answersAll (app : Application) (s : State) (actions : List Action) :
    ∃ server, app.AnswersAll server s actions := by
  induction actions generalizing s with
  | nil => exact ⟨fun _ _ => .error (.noResponse ""), trivial⟩
  | cons a as ih =>
    obtain ⟨later, hlater⟩ := ih (app.perform s a)
    cases hcall : a.call? with
    | none => exact ⟨later, by simp [Answers, hcall], hlater⟩
    | some call =>
      obtain ⟨answer, hanswer⟩ : ∃ answer, a.answer? = some answer := by
        cases a <;> simp [Action.call?, Action.answer?] at hcall ⊢
      -- The answer of the action to its own request, and after that what the rest is answered.
      refine ⟨fun sent => if sent.length ≤ s.requests.length then fun _ => answer else later sent,
        ?_, ?_⟩
      · intro called _
        simp [hanswer]
      · refine hlater.congr fun sent hsent => ?_
        have hlength := hsent.length_le
        rw [requests_perform, hcall] at hlength
        simp only [Option.map_some, Option.toList_some, List.length_append, List.length_singleton]
          at hlength
        rw [if_neg (by omega)]

/-- Every history is a run of its operations with some server. -/
theorem exists_respondAll_eq_replay (app : Application) (s : State) (actions : List Action) :
    ∃ server, (app.respondAll server s (app.operations s actions)).2 = app.replay s actions := by
  obtain ⟨server, hserver⟩ := exists_answersAll app s actions
  exact ⟨server, respondAll_operations hserver⟩

end Application

end ClientAccess
