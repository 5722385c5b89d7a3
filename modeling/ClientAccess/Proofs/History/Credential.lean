import ClientAccess.Proofs.History.Event

/-! Credentials. A call reads the token when it goes out, so what it carries is settled by the last
event of the session before it, whatever happened in between and whatever kind of store it is. -/
namespace ClientAccess

def Effect.request? : Effect → Option OutgoingRequest
  | .sent request => some request
  | _ => none

def State.requests (s : State) : List OutgoingRequest := s.trace.filterMap Effect.request?

def Action.call? : Action → Option Call
  | .login credentials _ => some credentials.call
  | .register registration _ => some registration.call
  | .send call _ => some call
  | _ => none

/-- The headers of a request made when `event?` was the last event of the session. -/
def Session.Event.headers (event? : Option Session.Event) : List (String × String) :=
  match event? with
  | some (.opened token _) => if token = "" then [] else [("Authorization", token)]
  | some .closed | none => []

namespace Application

open Session (Event)

variable (app : Application) (s : State)

theorem requests_navigate (target : String) :
    (app.navigate target s).2.requests = s.requests := by
  rw [State.requests, trace_navigate, List.filterMap_append]
  cases (app.hopsOf target s).2 <;> simp [State.requests, Effect.request?]

theorem requests_push (path : String) : (app.push path s).requests = s.requests := by
  rw [push, requests_navigate]
  simp [State.requests, State.record, Effect.request?]

theorem requests_change (change : Change) : (s.change change).requests = s.requests := by
  simp [State.requests, State.change, State.record, Effect.request?]

theorem requests_notify (message : String) : (s.notify message).requests = s.requests := by
  simp [State.requests, State.notify, State.record, Effect.request?]

theorem requests_reject (refusal : Refusal) :
    (app.reject refusal s).requests = s.requests := by
  unfold reject
  cases refusal.isExpired with
  | true => simp only [if_true, requests_push, requests_notify, requests_change]
  | false => exact requests_notify s refusal.message

theorem requests_sending (call : Call) :
    (app.sending s call).requests = s.requests ++ [app.prepare call s.store] := by
  simp [State.requests, sending, State.record, Effect.request?]

theorem requests_send (transport : Transport) (call : Call) :
    (app.send transport call s).2.requests = s.requests ++ [app.prepare call s.store] := by
  rw [send_snd, ← requests_sending]
  cases (app.answerTo transport s call).outcome with
  | ok value => rfl
  | error refusal => exact requests_reject app (app.sending s call) refusal

theorem requests_enroll (transport : Transport) (username : String) (call : Call) :
    (app.enroll transport username call s).2.requests =
      s.requests ++ [app.prepare call s.store] := by
  rw [enroll_snd, ← requests_sending]
  cases (app.answerTo transport s call).enrolled username with
  | ok grant => exact requests_change (app.sending s call) _
  | error fault =>
    cases fault with
    | refused refusal => exact requests_reject app (app.sending s call) refusal
    | malformed fault => rfl

theorem requests_perform (a : Action) :
    (app.perform s a).requests =
      s.requests ++ (a.call?.map fun call => app.prepare call s.store).toList := by
  cases a with
  | establish token user => simpa [perform, Action.call?] using requests_change s _
  | clear => simpa [perform, Action.call?] using requests_change s _
  | login credentials answer => exact requests_enroll app s _ _ _
  | register registration answer => exact requests_enroll app s _ _ _
  | logout =>
    have hpush := requests_push app (s.change Session.ending) app.loginPath
    rw [requests_change] at hpush
    simpa [perform, logout, Action.call?] using hpush
  | send call answer => exact requests_send app s _ call
  | navigate target => simpa [perform, Action.call?] using requests_navigate app s target
  | push path => simpa [perform, Action.call?] using requests_push app s path
  | evaluate visit =>
    have hsame : (app.evaluate visit s).2.requests = s.requests := by
      rcases evaluate_snd app visit s with hsame | hsame
      · rw [hsame]
      · rw [hsame, requests_notify]
    simpa [perform, Action.call?] using hsame

theorem headers_prepare (call : Call) (store : Store) :
    (app.prepare call store).headers =
      ((Session.token? store).map fun token => ("Authorization", token)).toList := rfl

theorem headers_of_token? (event? : Option Event) :
    ((event?.elim none Event.token?).map fun token => ("Authorization", token)).toList =
      Event.headers event? := by
  cases event? with
  | none => rfl
  | some event =>
    cases event with
    | closed => rfl
    | opened token user =>
      by_cases ht : token = "" <;> simp [Event.token?, Event.headers, ht]

/-- From a store without a token on, after any history, an action hands over one request if it
makes a call and none otherwise, and the headers of the request are those of the last event of the
session: the token as it was given, or nothing if it was empty, if the session has been closed
since, or if there has been none. -/
theorem headers_of_last_event (app : Application) (store : Store)
    (hfresh : store.get? Session.tokenKey = none) (before : List Action) (a : Action) :
    ∃ handed : List OutgoingRequest,
      (app.perform (app.replay (.ofStore store) before) a).requests =
        (app.replay (.ofStore store) before).requests ++ handed ∧
      handed.map (·.headers) =
        if a.call?.isSome then [Event.headers (app.events (.ofStore store) before).getLast?]
        else [] := by
  refine ⟨_, requests_perform app _ a, ?_⟩
  have htoken := token?_replay app (.ofStore store) before
  have hnone : Session.token? (State.ofStore store).store = none := by
    simp [Session.token?, State.ofStore, hfresh]
  rw [hnone] at htoken
  cases hcall : a.call? with
  | none => rfl
  | some call =>
    simp only [Option.map_some, Option.toList_some, List.map_cons, List.map_nil,
      Option.isSome_some, if_true]
    rw [headers_prepare, htoken, headers_of_token?]

def renewal : List Action :=
  [.establish "t-1" ⟨"1", none, .empty⟩, .send (.get "/api/orders") (.ok ⟨401, none⟩),
    .login ⟨"ann", "pw"⟩ (.ok ⟨200, some (.obj [("data", .obj [("token", .str "t-2")])])⟩)]

theorem headers_after_renewal :
    (Store.inMemory .empty).get? Session.tokenKey = none ∧
    ∃ handed : List OutgoingRequest,
      (standard.perform (standard.replay (.ofStore (.inMemory .empty)) renewal)
          (.send (.get "/api/orders") (.error (.noResponse "timeout")))).requests =
        (standard.replay (.ofStore (.inMemory .empty)) renewal).requests ++ handed ∧
      handed.map (·.headers) = [[("Authorization", "t-2")]] :=
  ⟨rfl, headers_of_last_event standard (.inMemory .empty) rfl renewal
    (.send (.get "/api/orders") (.error (.noResponse "timeout")))⟩

end Application

end ClientAccess
