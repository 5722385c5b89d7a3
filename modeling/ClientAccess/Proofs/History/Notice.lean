import ClientAccess.Proofs.History.Credential
import ClientAccess.Proofs.History.Place

/-! Notices. A refused call is told to the user once. An expired session is ended before that, and
only then is the sign-in page pushed; no other outcome of a call touches the session or the place.
If everybody may visit the sign-in page, going there tells nothing more, so in a history without
visits the user is told the messages of the refused calls and nothing else. -/
namespace ClientAccess

def Effect.notice? : Effect → Option String
  | .notified message => some message
  | _ => none

def State.notices (s : State) : List String := s.trace.filterMap Effect.notice?

def Action.isVisit : Action → Bool
  | .navigate _ | .push _ | .evaluate _ => true
  | _ => false

namespace Refusal

def ofCall? : Except Refusal Json → Option Refusal
  | .ok _ => none
  | .error refusal => some refusal

/-- A body that grants nothing is no refusal: the call itself has succeeded. -/
def ofSignIn? : Except SignInFault Profile → Option Refusal
  | .error (.refused refusal) => some refusal
  | .error (.malformed _) | .ok _ => none

end Refusal

namespace Answer

theorem isExpired_ofStatus (status : Nat) (body : Option Json) :
    (ofStatus status body).isExpired = true ↔ status = 401 := by
  unfold ofStatus
  by_cases hstatus : status = 401
  · simp [hstatus, Refusal.isExpired]
  · simp [hstatus, Refusal.isExpired]

theorem isExpired_of_ofBody {body : Option Json} {refusal : Refusal}
    (h : ofBody body = .error refusal) : refusal.isExpired = false := by
  unfold ofBody at h
  split at h
  · cases h
  · split at h
    · cases h
      rfl
    · cases h
  · cases h

theorem isExpired_ofFailure (failure : Failure) : (ofFailure failure).isExpired = false := by
  unfold ofFailure
  split
  · rfl
  · split <;> rfl

theorem expired_iff (answer : Answer) :
    (∃ refusal, answer.outcome = .error refusal ∧ refusal.isExpired = true) ↔
      ∃ body, answer = .ok ⟨401, body⟩ := by
  cases answer with
  | error failure => simp [outcome, isExpired_ofFailure]
  | ok reply =>
    obtain ⟨status, body⟩ := reply
    by_cases hsuccess : Reply.isSuccess ⟨status, body⟩ = true
    · have hother : status ≠ 401 := by
        rintro rfl
        cases hsuccess
      constructor
      · rintro ⟨refusal, hrefusal, hexpired⟩
        rw [outcome, if_pos hsuccess] at hrefusal
        rw [isExpired_of_ofBody hrefusal] at hexpired
        cases hexpired
      · rintro ⟨_, h⟩
        cases h
        exact absurd rfl hother
    · simp [outcome, hsuccess, isExpired_ofStatus]

end Answer

namespace Application

variable (app : Application) (transport : Transport) (s : State)

/-- The refusal of the call an action makes, told from the action's result. -/
def refusal? : Action → Option Refusal
  | .send call answer => Refusal.ofCall? (app.send (fun _ => answer) call s).1
  | .login credentials answer =>
    Refusal.ofSignIn? (app.login (fun _ => answer) credentials s).1
  | .register registration answer =>
    Refusal.ofSignIn? (app.register (fun _ => answer) registration s).1
  | _ => none

def refusals (app : Application) (s : State) : List Action → List Refusal
  | [] => []
  | a :: as => (app.refusal? s a).toList ++ refusals app (app.perform s a) as

theorem notices_notify (message : String) :
    (s.notify message).notices = s.notices ++ [message] := by
  simp [State.notices, State.notify, State.record, Effect.notice?]

theorem notices_change (change : Change) : (s.change change).notices = s.notices := by
  simp [State.notices, State.change, State.record, Effect.notice?]

theorem notices_sending (call : Call) : (app.sending s call).notices = s.notices := by
  simp [State.notices, sending, State.record, Effect.notice?]

theorem notices_navigate (target : String) :
    (app.navigate target s).2.notices =
      s.notices ++ if (app.hopsOf target s).2 then [unauthorizedMessage] else [] := by
  rw [State.notices, trace_navigate, List.filterMap_append]
  cases (app.hopsOf target s).2 <;> rfl

variable {app s} {door : Match}

theorem notices_push_door (hdoor : app.table.resolvePath app.loginPath = some door)
    (hopen : door.IsOpen) (ht : Session.token? s.store = none) :
    (app.push app.loginPath s).notices = s.notices := by
  have hhops : app.hopsOf app.loginPath (s.record (.pushed app.loginPath)) =
      (.ok door.location, false) := hopsOf_of_landed (hop_door hdoor hopen ht)
  rw [push, notices_navigate, hhops]
  simp [State.notices, State.record, Effect.notice?]

theorem notices_reject (hdoor : app.table.resolvePath app.loginPath = some door)
    (hopen : door.IsOpen) (refusal : Refusal) (s : State) :
    (app.reject refusal s).notices = s.notices ++ [refusal.message] := by
  unfold reject
  cases refusal.isExpired with
  | true =>
    simp only [if_true]
    rw [notices_push_door hdoor hopen (Session.token?_ending s.store), notices_notify,
      notices_change]
  | false => exact notices_notify s refusal.message

theorem notices_send (hdoor : app.table.resolvePath app.loginPath = some door)
    (hopen : door.IsOpen) (call : Call) :
    (app.send transport call s).2.notices = s.notices ++
      ((Refusal.ofCall? (app.send transport call s).1).map Refusal.message).toList := by
  rw [send_fst, send_snd]
  cases (app.answerTo transport s call).outcome with
  | ok value => simpa [Refusal.ofCall?] using notices_sending app s call
  | error refusal =>
    simp only [Refusal.ofCall?, Option.map_some, Option.toList_some]
    rw [notices_reject hdoor hopen, notices_sending]

theorem notices_enroll (hdoor : app.table.resolvePath app.loginPath = some door)
    (hopen : door.IsOpen) (username : String) (call : Call) :
    (app.enroll transport username call s).2.notices = s.notices ++
      ((Refusal.ofSignIn? (app.enroll transport username call s).1).map
        Refusal.message).toList := by
  rw [enroll_fst, enroll_snd]
  cases (app.answerTo transport s call).enrolled username with
  | ok grant =>
    simp only [Except.map, Refusal.ofSignIn?, Option.map_none, Option.toList_none]
    rw [notices_change, notices_sending, List.append_nil]
  | error fault =>
    cases fault with
    | refused refusal =>
      simp only [Except.map, Refusal.ofSignIn?, Option.map_some, Option.toList_some]
      rw [notices_reject hdoor hopen, notices_sending]
    | malformed fault =>
      simp only [Except.map, Refusal.ofSignIn?, Option.map_none, Option.toList_none]
      rw [notices_sending, List.append_nil]

theorem notices_perform (hdoor : app.table.resolvePath app.loginPath = some door)
    (hopen : door.IsOpen) {a : Action} (ha : a.isVisit = false) :
    (app.perform s a).notices =
      s.notices ++ ((app.refusal? s a).map Refusal.message).toList := by
  cases a with
  | establish token user => simpa [perform, refusal?] using notices_change s _
  | clear => simpa [perform, refusal?] using notices_change s _
  | login credentials answer => exact notices_enroll _ hdoor hopen _ _
  | register registration answer => exact notices_enroll _ hdoor hopen _ _
  | logout =>
    have hnone : Session.token? (s.change Session.ending).store = none :=
      Session.token?_ending s.store
    have hpush := notices_push_door hdoor hopen hnone
    rw [notices_change] at hpush
    simpa [perform, logout, refusal?] using hpush
  | send call answer => exact notices_send _ hdoor hopen call
  | navigate target => cases ha
  | push path => cases ha
  | evaluate visit => cases ha

theorem notices_replay (hdoor : app.table.resolvePath app.loginPath = some door)
    (hopen : door.IsOpen) {actions : List Action} (h : ∀ a ∈ actions, a.isVisit = false) :
    (app.replay s actions).notices =
      s.notices ++ (app.refusals s actions).map Refusal.message := by
  induction actions generalizing s with
  | nil => simp [refusals]
  | cons a as ih =>
    obtain ⟨ha, has⟩ := List.forall_mem_cons.1 h
    rw [replay_cons, ih has, notices_perform hdoor hopen ha, refusals, List.map_append,
      List.append_assoc]
    cases app.refusal? s a <;> rfl

/-- A call hands over one request, prepared before anything else happens. If it succeeds, nothing
else happens. If it is refused, its message is told once; and unless the session has expired, which
means a status of 401 and nothing else, that is all. An expired session is ended first, both of its
keys and no others, then the message is told, then the sign-in page is pushed, and what is left is
the navigation there, which finds no session. And if everybody may visit the sign-in page, what the
user is told over any history without visits is the messages of the refused calls, one each. -/
theorem calls_told_once (app : Application) (s : State) :
    (∀ (transport : Transport) (call : Call),
      (app.send transport call s).2.requests = s.requests ++ [app.prepare call s.store] ∧
      (∀ value, (app.send transport call s).1 = .ok value →
        (app.send transport call s).2 = s.record (.sent (app.prepare call s.store))) ∧
      (∀ refusal, (app.send transport call s).1 = .error refusal →
        refusal.isExpired = false →
          (app.send transport call s).2 =
            (s.record (.sent (app.prepare call s.store))).record (.notified refusal.message)) ∧
      (∀ refusal, (app.send transport call s).1 = .error refusal →
        refusal.isExpired = true →
          ∃ told : State,
            told.trace = s.trace ++ [.sent (app.prepare call s.store), .changed Session.ending,
              .notified refusal.message, .pushed app.loginPath] ∧
            (∀ key, told.store.get? key =
              if key = Session.tokenKey ∨ key = Session.userKey then none
              else s.store.get? key) ∧
            (app.send transport call s).2 = (app.navigate app.loginPath told).2 ∧
            (app.send transport call s).2.store = told.store) ∧
      ((∃ refusal, (app.send transport call s).1 = .error refusal ∧ refusal.isExpired = true) ↔
        ∃ body, transport (app.prepare call s.store) = .ok ⟨401, body⟩)) ∧
    ∀ door, app.table.resolvePath app.loginPath = some door → door.IsOpen →
      ∀ actions : List Action, (∀ a ∈ actions, a.isVisit = false) →
        (app.replay s actions).notices =
          s.notices ++ (app.refusals s actions).map Refusal.message := by
  refine ⟨?_, fun door hdoor hopen actions h => notices_replay hdoor hopen h⟩
  intro transport call
  refine ⟨requests_send app s transport call, ?_, ?_, ?_, ?_⟩
  · intro value hok
    rw [send_fst] at hok
    rw [send_snd, hok]
    rfl
  · intro refusal hrefused hkept
    rw [send_fst] at hrefused
    rw [send_snd, hrefused]
    simp only [reject, hkept]
    rfl
  · intro refusal hrefused hexpired
    rw [send_fst] at hrefused
    have hafter : (app.send transport call s).2 = app.reject refusal (app.sending s call) := by
      rw [send_snd, hrefused]
    rw [hafter, reject, if_pos hexpired]
    refine ⟨_, ?_, Session.get?_ending s.store, rfl, store_push app app.loginPath _⟩
    simp [sending, State.change, State.notify, State.record]
  · rw [send_fst]
    exact Answer.expired_iff (app.answerTo transport s call)

def signedIn : State := .ofStore (Session.establish (.inMemory .empty) "t-1" ⟨"1", none, .empty⟩)

def refusedCalls : List Action :=
  [.send (.get "/api/orders") (.ok ⟨500, none⟩), .send (.get "/api/orders") (.ok ⟨401, none⟩),
    .send (.get "/api/orders") (.ok ⟨200, none⟩),
    .login ⟨"ann", "pw"⟩ (.error (.noResponse "timeout"))]

theorem refused_calls_told :
    standard.table.resolvePath standard.loginPath = some loginDoor ∧ loginDoor.IsOpen ∧
    (standard.replay signedIn refusedCalls).notices =
      ["internal server error", "session expired, please log in again",
        "network error, check your connection"] ∧
    ∃ told : State, told.store.get? Session.tokenKey = none ∧
      (standard.send (fun _ => .ok ⟨401, none⟩) (.get "/api/orders") signedIn).2 =
        (standard.navigate "/login" told).2 := by
  have hdoor : standard.table.resolvePath standard.loginPath = some loginDoor := rfl
  have hopen : loginDoor.IsOpen := ⟨rfl, rfl, rfl⟩
  obtain ⟨hcalls, htold⟩ := calls_told_once standard signedIn
  obtain ⟨-, -, -, hexpired, -⟩ := hcalls (fun _ => .ok ⟨401, none⟩) (.get "/api/orders")
  obtain ⟨told, -, hkeys, hafter, -⟩ := hexpired _ rfl rfl
  refine ⟨hdoor, hopen, ?_, told, hkeys Session.tokenKey, hafter⟩
  rw [htold loginDoor hdoor hopen refusedCalls (by decide)]
  rfl

end Application

end ClientAccess
