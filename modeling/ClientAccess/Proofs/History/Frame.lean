import ClientAccess.Proofs.History.Agreement
import ClientAccess.Proofs.History.Notice
import ClientAccess.Proofs.Store.Repetition

/-! What the session layer leaves alone. Of the store it writes two keys only, and these only where a
session is set or cleared, where somebody logs out or has signed in, and where a call is answered
with a status of 401. Everything else that can be asked of an application leaves the whole store as
it finds it, the disk included. -/
namespace ClientAccess

namespace Session

theorem get?_establishing_of_ne (s : Store) (token : String) (user : Profile) {key : String}
    (htoken : key ≠ tokenKey) (huser : key ≠ userKey) :
    (s.apply (establishing token user)).get? key = s.get? key := by
  rw [Store.get?_apply]
  simp [establishing, Entries.apply, Entries.insertAll, Entries.get?_insert, Ne.symm htoken,
    Ne.symm huser, Store.get?]

theorem get?_after (store : Store) (event? : Option Event) {key : String} (htoken : key ≠ tokenKey)
    (huser : key ≠ userKey) : (after store event?).get? key = store.get? key := by
  cases event? with
  | none => rfl
  | some event =>
    cases event with
    | opened token user => exact get?_establishing_of_ne store token user htoken huser
    | closed => exact (get?_ending store key).trans (if_neg (not_or.2 ⟨htoken, huser⟩))

namespace Event

variable {answer : Answer} {username? : Option String} {event : Event}

theorem expired_of_ofRefusal? {refusal : Refusal} (hout : answer.outcome = .error refusal)
    (h : ofRefusal? refusal = some event) : ∃ body, answer = .ok ⟨401, body⟩ := by
  refine answer.expired_iff.1 ⟨refusal, hout, ?_⟩
  unfold ofRefusal? at h
  split at h
  · assumption
  · cases h

theorem of_ofAnswer? (h : ofAnswer? answer username? = some event) :
    (∃ body, answer = .ok ⟨401, body⟩) ∨
      ∃ username grant, username? = some username ∧ answer.enrolled username = .ok grant := by
  cases hout : answer.outcome with
  | error refusal =>
    refine .inl (expired_of_ofRefusal? hout (?_ : ofRefusal? refusal = some event))
    cases username? with
    | none => simpa [ofAnswer?, hout, ofCall?] using h
    | some username => simpa [ofAnswer?, Answer.enrolled, hout, Except.map, ofSignIn?] using h
  | ok body =>
    cases username? with
    | none => simp [ofAnswer?, hout, ofCall?] at h
    | some username =>
      cases hgrant : Grant.ofBody username body with
      | error fault =>
        have hmalformed : answer.enrolled username = .error (.malformed fault) := by
          simp only [Answer.enrolled, hout, hgrant]
          rfl
        simp [ofAnswer?, hmalformed, Except.map, ofSignIn?] at h
      | ok grant =>
        refine .inr ⟨username, grant, rfl, ?_⟩
        simp only [Answer.enrolled, hout, hgrant]
        rfl

end Event

end Session

namespace Application

open Session (Event)

namespace Operation

def call? : Operation → Option Call
  | .login credentials => some credentials.call
  | .register registration => some registration.call
  | .send call => some call
  | _ => none

/-- The store is changed by hand only to set a session or to clear it. -/
def IsOrderly : Operation → Prop
  | .change made =>
    made = Session.ending ∨ ∃ token user, made = Session.establishing token user
  | _ => True

end Operation

/-- What may touch the session: setting it, clearing it, logging out, signing in with success, and a
call that is answered with a status of 401. -/
inductive Touches (app : Application) (server : List OutgoingRequest → Transport) (s : State) :
    Operation → Prop where
  | set (token : String) (user : Profile) :
    Touches app server s (.change (Session.establishing token user))
  | clear : Touches app server s (.change Session.ending)
  | logout : Touches app server s .logout
  | login {credentials : Credentials} {user : Profile}
    (succeeds : (app.respond server s (.login credentials)).1 = .signedIn (.ok user)) :
    Touches app server s (.login credentials)
  | register {registration : Registration} {user : Profile}
    (succeeds : (app.respond server s (.register registration)).1 = .signedIn (.ok user)) :
    Touches app server s (.register registration)
  | expired {op : Operation} {call : Call} {body : Option Json} (makes : op.call? = some call)
    (answered : server s.requests (app.prepare call s.store) = .ok ⟨401, body⟩) :
    Touches app server s op

variable {app : Application} {server : List OutgoingRequest → Transport} {s : State}

theorem touches_of_ofAnswer? {op : Operation} {call : Call} {username? : Option String}
    (makes : op.call? = some call)
    (hsignIn : ∀ username grant, username? = some username →
      (server s.requests (app.prepare call s.store)).enrolled username = .ok grant →
        app.Touches server s op) :
    Event.ofAnswer? (server s.requests (app.prepare call s.store)) username? = none ∨
      app.Touches server s op := by
  cases hevent : Event.ofAnswer? (server s.requests (app.prepare call s.store)) username? with
  | none => exact .inl rfl
  | some event =>
    rcases Event.of_ofAnswer? hevent with ⟨body, hbody⟩ | ⟨username, grant, hname, hgrant⟩
    · exact .inr (.expired makes hbody)
    · exact .inr (hsignIn username grant hname hgrant)

theorem store_enroll_answer (transport : Transport) (username : String) (call : Call) :
    (app.enroll transport username call s).2.store = Session.after s.store
      (Event.ofAnswer? (transport (app.prepare call s.store)) (some username)) := by
  rw [enroll_eq_receive, store_receive]
  rfl

theorem enroll_fst_of_enrolled {transport : Transport} {username : String} {call : Call}
    {grant : Grant} (h : (transport (app.prepare call s.store)).enrolled username = .ok grant) :
    (app.enroll transport username call s).1 = .ok grant.user := by
  rw [enroll_fst, answerTo, h]
  rfl

variable (app server s) in
theorem exists_event_respond {op : Operation} (h : op.IsOrderly) :
    ∃ event?, (app.respond server s op).2.store = Session.after s.store event? ∧
      (event? = none ∨ app.Touches server s op) := by
  cases op with
  | change made =>
    rcases h with rfl | ⟨token, user, rfl⟩
    · exact ⟨some .closed, rfl, .inr .clear⟩
    · exact ⟨some (.opened token user), rfl, .inr (.set token user)⟩
  | logout =>
    refine ⟨some .closed, ?_, .inr .logout⟩
    simp only [respond, logout, store_push]
    rfl
  | send call =>
    refine ⟨_, store_receive app (app.sending s call) _ none, touches_of_ofAnswer? rfl ?_⟩
    intro username grant hname
    cases hname
  | login credentials =>
    refine ⟨_, store_enroll_answer _ credentials.username _, touches_of_ofAnswer? rfl ?_⟩
    rintro username grant ⟨⟩ hgrant
    -- A grant is what the result of the sign-in is made of.
    exact .login (congrArg Result.signedIn (enroll_fst_of_enrolled hgrant))
  | register registration =>
    refine ⟨_, store_enroll_answer _ registration.username _, touches_of_ofAnswer? rfl ?_⟩
    rintro username grant ⟨⟩ hgrant
    exact .register (congrArg Result.signedIn (enroll_fst_of_enrolled hgrant))
  | navigate target => exact ⟨none, store_navigate app target s, .inl rfl⟩
  | push path => exact ⟨none, store_push app path s, .inl rfl⟩
  | evaluate visit => exact ⟨none, store_evaluate app s visit, .inl rfl⟩
  | get | snapshot | prepare | check | report => exact ⟨none, rfl, .inl rfl⟩

theorem get?_respond {op : Operation} (h : op.IsOrderly) {key : String}
    (htoken : key ≠ Session.tokenKey) (huser : key ≠ Session.userKey) :
    (app.respond server s op).2.store.get? key = s.store.get? key := by
  obtain ⟨event?, hstore, -⟩ := exists_event_respond app server s h
  rw [hstore, Session.get?_after s.store event? htoken huser]

theorem touches_or_store_eq {op : Operation} (h : op.IsOrderly) :
    app.Touches server s op ∨ (app.respond server s op).2.store = s.store := by
  obtain ⟨event?, hstore, hnone | htouches⟩ := exists_event_respond app server s h
  · rw [hnone] at hstore
    exact .inr hstore
  · exact .inl htouches

theorem get?_respondAll {ops : List (Disk × Operation)} (h : ∀ x ∈ ops, x.2.IsOrderly) {key : String}
    (htoken : key ≠ Session.tokenKey) (huser : key ≠ Session.userKey) :
    (app.respondAll server s ops).2.store.get? key = s.store.get? key := by
  induction ops generalizing s with
  | nil => rfl
  | cons x ops ih =>
    obtain ⟨hx, hrest⟩ := List.forall_mem_cons.1 h
    exact (ih hrest).trans (get?_respond hx htoken huser)

theorem respondAll_concat (before : List (Disk × Operation)) (disk : Disk) (op : Operation) :
    (app.respondAll server s (before ++ [(disk, op)])).2 =
      (app.respond server ((app.respondAll server s before).2.onDisk disk) op).2 := by
  induction before generalizing s with
  | nil => rfl
  | cons x before ih => exact ih

/-- Operations that change the store by hand only to set a session or to clear it leave every other
key as it was at the beginning. Each of them leaves the whole store as it finds it, unless it is one
of those that may touch the session. Clearing a session any number of times in a row is clearing it
once. -/
theorem session_framed (app : Application) (server : List OutgoingRequest → Transport) (s : State)
    (ops : List (Disk × Operation)) (hops : ∀ x ∈ ops, x.2.IsOrderly) :
    (∀ key, key ≠ Session.tokenKey → key ≠ Session.userKey →
      (app.respondAll server s ops).2.store.get? key = s.store.get? key) ∧
    (∀ before disk op later, ops = before ++ (disk, op) :: later →
      let here := (app.respondAll server s before).2.onDisk disk
      app.Touches server here op ∨
        (app.respondAll server s (before ++ [(disk, op)])).2.store = here.store) ∧
    ∀ (store : Store) (n : Nat),
      store.applyAll (List.replicate (n + 1) Session.ending) = Session.clear store := by
  refine ⟨fun key => get?_respondAll hops, ?_, ?_⟩
  · rintro before disk op later rfl here
    have hop : op.IsOrderly := hops (disk, op) (by simp)
    rw [respondAll_concat]
    exact touches_or_store_eq hop
  · intro store n
    exact Store.applyAll_replicate store Session.ending n

/-- A server that cannot be reached, then refuses what it is sent, then lets somebody in, and from
then on takes every session to have expired. -/
def moodyServer (sent : List OutgoingRequest) : Transport := fun _ =>
  match sent.length with
  | 0 => .error (.noResponse "timeout")
  | 1 => .ok ⟨200, some (.obj [("success", .bool false)])⟩
  | 2 => .ok ⟨200, some (.obj [("data", .obj [("token", .str "t-2")])])⟩
  | _ => .ok ⟨401, none⟩

def themed : State :=
  .ofStore ⟨.single, .ofList [("theme", "dark"), (Session.tokenKey, "t-1")], .empty⟩

def moodyDay : List (Disk × Operation) :=
  [.send (.get "/api/orders"), .register ⟨"ann", "pw", none, []⟩, .login ⟨"ann", "pw"⟩,
    .navigate "/users", .send (.get "/api/orders"), .change Session.ending].map (.empty, ·)

theorem theme_kept :
    (∀ x ∈ moodyDay, x.2.IsOrderly) ∧
    (standard.respondAll moodyServer themed moodyDay).2.store.get? "theme" = some "dark" ∧
    Session.token? (standard.respondAll moodyServer themed (moodyDay.take 4)).2.store = some "t-2" ∧
    themed.store.applyAll (List.replicate 3 Session.ending) = Session.clear themed.store := by
  have hops : ∀ x ∈ moodyDay, x.2.IsOrderly := by simp [moodyDay, Operation.IsOrderly]
  obtain ⟨hkeys, hsteps, hclear⟩ := session_framed standard moodyServer themed moodyDay hops
  refine ⟨hops, (hkeys "theme" (by decide) (by decide)).trans rfl, ?_, hclear themed.store 2⟩
  rcases hsteps (moodyDay.take 3) .empty (.navigate "/users") (moodyDay.drop 4) rfl with h | h
  · cases h with
    | expired makes answered => cases makes
  · exact (congrArg Session.token? h).trans rfl

end Application

end ClientAccess
