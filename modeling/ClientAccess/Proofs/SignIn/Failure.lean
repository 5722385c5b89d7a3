import ClientAccess.Proofs.History.Notice

/-! Signing in without success. A body is taken apart before anything is stored, so a body that
grants nothing leaves the session there was. A refusal only does what it does to any call. -/
namespace ClientAccess

/-- A body that grants a session: its `data` is an object with a token, which is a text and not
empty, and with no role unless that is a text or `null`. -/
def Json.GrantsSession (body : Json) : Prop :=
  ∃ outer members token, body = .obj outer ∧ Entries.find? "data" outer = some (.obj members) ∧
    Entries.find? "token" members = some (.str token) ∧ token ≠ "" ∧
    ∀ role, Entries.find? "role" members = some role → role = .null ∨ ∃ text, role = .str text

theorem Json.member?_eq_some_iff {key : String} {body value : Json} :
    body.member? key = some value ↔
      ∃ members, body = .obj members ∧ Entries.find? key members = some value := by
  cases body <;> simp [member?]

namespace Grant

theorem exists_textOf_iff (key : String) (members : List (String × Json)) :
    (∃ text, textOf key members = .ok text) ↔
      ∀ value, Entries.find? key members = some value →
        value = .null ∨ ∃ text, value = .str text := by
  unfold textOf
  cases Entries.find? key members with
  | none => simp
  | some value => cases value <;> simp

theorem exists_ofBody_iff (username : String) (body : Json) :
    (∃ grant, ofBody username body = .ok grant) ↔ body.GrantsSession := by
  constructor
  · rintro ⟨grant, hgrant⟩
    obtain ⟨members, hdata, htoken, hne, role, hrole, -⟩ := of_ofBody hgrant
    obtain ⟨outer, rfl, houter⟩ := Json.member?_eq_some_iff.1 hdata
    exact ⟨outer, members, grant.token, rfl, houter, htoken, hne,
      (exists_textOf_iff "role" members).1 ⟨role, hrole⟩⟩
  · rintro ⟨outer, members, token, rfl, hdata, htoken, hne, hrole⟩
    obtain ⟨role, hrole⟩ := (exists_textOf_iff "role" members).2 hrole
    have hmember : (Json.obj outer).member? "data" = some (.obj members) := hdata
    have htext : textOf "token" members = .ok (some token) :=
      (textOf_eq_ok_some_iff "token" members token).2 htoken
    have hfull : nonEmpty (some token) = some token :=
      (nonEmpty_eq_some_iff (some token) token).2 ⟨rfl, hne⟩
    refine ⟨⟨token, idOf username members, some ((nonEmpty role).getD "user"),
      extraOf username members⟩, ?_⟩
    simp [ofBody, hmember, ofMembers, hrole, htext, hfull, bind, Except.bind, pure, Except.pure]

end Grant

theorem Answer.enrolled_malformed_iff (username : String) (answer : Answer) :
    (∃ fault, answer.enrolled username = .error (.malformed fault)) ↔
      ∃ body, answer.outcome = .ok body ∧ ¬ body.GrantsSession := by
  unfold enrolled
  cases answer.outcome with
  | error refusal => simp
  | ok body =>
    simp only [Except.ok.injEq, exists_eq_left', ← Grant.exists_ofBody_iff username]
    cases Grant.ofBody username body with
    | ok grant =>
      have hgranted : (Except.ok grant).mapError SignInFault.malformed = .ok grant := rfl
      simp [hgranted]
    | error fault =>
      have hmalformed : (Except.error fault : Except Grant.Fault Grant).mapError
          SignInFault.malformed = .error (.malformed fault) := rfl
      simp [hmalformed]

inductive Entrance where
  | login (credentials : Credentials)
  | register (registration : Registration)

namespace Entrance

def username : Entrance → String
  | login credentials => credentials.username
  | register registration => registration.username

def call : Entrance → Call
  | login credentials => credentials.call
  | register registration => registration.call

end Entrance

namespace Application

def enter (app : Application) (transport : Transport) (s : State) :
    Entrance → Except SignInFault Profile × State
  | .login credentials => app.login transport credentials s
  | .register registration => app.register transport registration s

variable (app : Application) (transport : Transport) (s : State)

theorem enter_eq (entrance : Entrance) :
    app.enter transport s entrance = app.enroll transport entrance.username entrance.call s := by
  cases entrance <;> rfl

theorem enroll_fst_eq_error_iff {username : String} {call : Call} {fault : SignInFault} :
    (app.enroll transport username call s).1 = .error fault ↔
      (app.answerTo transport s call).enrolled username = .error fault := by
  rw [enroll_fst]
  cases (app.answerTo transport s call).enrolled username <;> simp [Except.map]

variable {app transport s}

theorem enroll_snd_of_refused {username : String} {call : Call} {refusal : Refusal}
    (h : (app.enroll transport username call s).1 = .error (.refused refusal)) :
    (app.enroll transport username call s).2 = app.reject refusal (app.sending s call) := by
  rw [enroll_snd, (enroll_fst_eq_error_iff app transport s).1 h]

theorem enroll_snd_of_malformed {username : String} {call : Call} {fault : Grant.Fault}
    (h : (app.enroll transport username call s).1 = .error (.malformed fault)) :
    (app.enroll transport username call s).2 = app.sending s call := by
  rw [enroll_snd, (enroll_fst_eq_error_iff app transport s).1 h]

/-- Signing in sends one request. If it is refused because the session has expired, both keys of
the session are removed and no others, then the message is told, then the sign-in page is pushed,
and what is left is the navigation there, which neither sends nor pushes. If it is refused for
another reason, the message is told and nothing else changes. If what it is answered is malformed,
nothing is told either. It is malformed if and only if the call has a value that grants no
session. -/
theorem failed_sign_in (app : Application) (transport : Transport) (entrance : Entrance)
    (s : State) :
    (app.enter transport s entrance).2.requests =
      s.requests ++ [app.prepare entrance.call s.store] ∧
    (∀ refusal, (app.enter transport s entrance).1 = .error (.refused refusal) →
      refusal.isExpired = true →
        (∀ key, (app.enter transport s entrance).2.store.get? key =
          if key = Session.tokenKey ∨ key = Session.userKey then none else s.store.get? key) ∧
        ∃ told : State,
          told.trace = s.trace ++ [.sent (app.prepare entrance.call s.store),
            .changed Session.ending, .notified refusal.message, .pushed app.loginPath] ∧
          (app.enter transport s entrance).2 = (app.navigate app.loginPath told).2 ∧
          ∃ denied : Bool, (app.enter transport s entrance).2.trace =
            told.trace ++ if denied then [.notified unauthorizedMessage] else []) ∧
    (∀ refusal, (app.enter transport s entrance).1 = .error (.refused refusal) →
      refusal.isExpired = false →
        (app.enter transport s entrance).2.store = s.store ∧
        (app.enter transport s entrance).2.current = s.current ∧
        (app.enter transport s entrance).2.trace = s.trace ++
          [.sent (app.prepare entrance.call s.store), .notified refusal.message]) ∧
    (∀ fault, (app.enter transport s entrance).1 = .error (.malformed fault) →
      (app.enter transport s entrance).2.store = s.store ∧
      (app.enter transport s entrance).2.current = s.current ∧
      (app.enter transport s entrance).2.trace =
        s.trace ++ [.sent (app.prepare entrance.call s.store)]) ∧
    ((∃ fault, (app.enter transport s entrance).1 = .error (.malformed fault)) ↔
      ∃ body, (app.send transport entrance.call s).1 = .ok body ∧ ¬ body.GrantsSession) := by
  rw [enter_eq]
  refine ⟨requests_enroll app s transport entrance.username entrance.call, ?_, ?_, ?_, ?_⟩
  · intro refusal hrefused hexpired
    rw [enroll_snd_of_refused hrefused, reject, if_pos hexpired]
    refine ⟨?_, _, ?_, rfl, _, trace_navigate app app.loginPath _⟩
    · rw [store_push]
      exact Session.get?_ending s.store
    · simp [sending, State.change, State.notify, State.record]
  · intro refusal hrefused hkept
    rw [enroll_snd_of_refused hrefused, reject, hkept]
    refine ⟨rfl, rfl, ?_⟩
    simp [sending, State.notify, State.record]
  · intro fault hmalformed
    rw [enroll_snd_of_malformed hmalformed]
    exact ⟨rfl, rfl, rfl⟩
  · simp only [enroll_fst_eq_error_iff, send_fst]
    exact Answer.enrolled_malformed_iff entrance.username (app.answerTo transport s entrance.call)

def tokenless : Answer := .ok ⟨200, some (.obj [("data", .obj [("role", .str "user")])])⟩

theorem signed_in_through_failures :
    (∀ key ∈ [Session.tokenKey, Session.userKey],
      (standard.enter (fun _ => .ok ⟨401, none⟩) signedIn
        (.login ⟨"ann", "pw"⟩)).2.store.get? key = none) ∧
    (standard.enter (fun _ => .ok ⟨503, none⟩) signedIn (.login ⟨"ann", "pw"⟩)).2.store =
      signedIn.store ∧
    (∃ fault, (standard.enter (fun _ => tokenless) signedIn
      (.register ⟨"ann", "pw", none, []⟩)).1 = .error (.malformed fault)) ∧
    (standard.enter (fun _ => tokenless) signedIn (.register ⟨"ann", "pw", none, []⟩)).2.store =
      signedIn.store := by
  obtain ⟨-, hexpired, -⟩ :=
    failed_sign_in standard (fun _ => .ok ⟨401, none⟩) (.login ⟨"ann", "pw"⟩) signedIn
  obtain ⟨-, -, hkept, -⟩ :=
    failed_sign_in standard (fun _ => .ok ⟨503, none⟩) (.login ⟨"ann", "pw"⟩) signedIn
  obtain ⟨-, -, -, hmalformed, hiff⟩ :=
    failed_sign_in standard (fun _ => tokenless) (.register ⟨"ann", "pw", none, []⟩) signedIn
  have hnot : ¬ (Json.obj [("data", .obj [("role", .str "user")])]).GrantsSession := by
    simp [Json.GrantsSession, Entries.find?]
  obtain ⟨fault, hfault⟩ := hiff.2 ⟨_, rfl, hnot⟩
  refine ⟨?_, (hkept _ rfl rfl).1, ⟨fault, hfault⟩, (hmalformed fault hfault).1⟩
  intro key hkey
  rw [(hexpired _ rfl rfl).1 key, if_pos (by simpa using hkey)]

end Application

end ClientAccess
