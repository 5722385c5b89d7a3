import ClientAccess.Application.SignIn

/-! Enrollment. What comes of signing in is decided by the answer alone: a grant, a refusal, or a
body that grants nothing. The state follows from that in one step. -/
namespace ClientAccess

namespace Grant

theorem nonEmpty_eq_some_iff (text : Option String) (s : String) :
    nonEmpty text = some s ↔ text = some s ∧ s ≠ "" := by
  simp [nonEmpty, Option.filter_eq_some_iff]

theorem textOf_eq_ok_some_iff (key : String) (members : List (String × Json)) (s : String) :
    textOf key members = .ok (some s) ↔ Entries.find? key members = some (.str s) := by
  unfold textOf
  cases h : Entries.find? key members with
  | none => simp
  | some v => cases v <;> simp

theorem of_ofBody {username : String} {body : Json} {grant : Grant}
    (h : ofBody username body = .ok grant) :
    ∃ members, body.member? "data" = some (.obj members) ∧
      Entries.find? "token" members = some (.str grant.token) ∧ grant.token ≠ "" ∧
      ∃ role, textOf "role" members = .ok role ∧
        grant.user = ⟨idOf username members, some ((nonEmpty role).getD "user"),
          extraOf username members⟩ := by
  unfold ofBody at h
  split at h
  · cases h
  · next members hdata =>
    refine ⟨members, hdata, ?_⟩
    unfold ofMembers at h
    cases hrole : textOf "role" members with
    | error fault => rw [hrole] at h; cases h
    | ok role =>
      cases htoken : textOf "token" members with
      | error fault => rw [hrole, htoken] at h; cases h
      | ok token =>
        rw [hrole, htoken] at h
        cases htext : nonEmpty token with
        | none => simp [bind, Except.bind, htext] at h
        | some text =>
          have he : grant = ⟨text, idOf username members, some ((nonEmpty role).getD "user"),
              extraOf username members⟩ := by
            simpa [bind, Except.bind, htext, pure, Except.pure, eq_comm] using h
          obtain ⟨hsome, hne⟩ := (nonEmpty_eq_some_iff token text).1 htext
          subst he hsome
          exact ⟨(textOf_eq_ok_some_iff _ _ _).1 htoken, hne, role, rfl, rfl⟩
  · cases h

end Grant

namespace Answer

def data? : Answer → Option Json
  | .ok reply => reply.body.bind (Json.member? "data")
  | .error _ => none

def grantedToken? (answer : Answer) : Option String :=
  (answer.data?.bind (Json.member? "token")).bind Json.asText?

theorem of_outcome {answer : Answer} {body : Json} (h : answer.outcome = .ok body) :
    ∃ reply, answer = .ok reply ∧ body = reply.body.getD .null := by
  cases answer with
  | error failure => cases h
  | ok reply =>
    refine ⟨reply, rfl, ?_⟩
    have hbody : ofBody reply.body = .ok body := by
      simp only [outcome] at h
      split at h
      · exact h
      · cases h
    unfold ofBody at hbody
    split at hbody
    · next hnone =>
      cases hbody
      rw [hnone, Option.getD_none]
    · next members hsome =>
      split at hbody
      · cases hbody
      · cases hbody
        rw [hsome, Option.getD_some]
    · next value _ hsome =>
      cases hbody
      rw [hsome, Option.getD_some]

theorem data?_of_outcome {answer : Answer} {body data : Json} (h : answer.outcome = .ok body)
    (hdata : body.member? "data" = some data) : answer.data? = some data := by
  obtain ⟨reply, rfl, rfl⟩ := of_outcome h
  cases hbody : reply.body with
  | none =>
    rw [hbody] at hdata
    cases hdata
  | some body =>
    rw [hbody, Option.getD_some] at hdata
    rw [data?, hbody, Option.bind_some, hdata]

def enrolled (username : String) (answer : Answer) : Except SignInFault Grant :=
  match answer.outcome with
  | .error refusal => .error (.refused refusal)
  | .ok body => (Grant.ofBody username body).mapError .malformed

theorem of_enrolled {username : String} {answer : Answer} {grant : Grant}
    (h : answer.enrolled username = .ok grant) :
    ∃ body, answer.outcome = .ok body ∧ Grant.ofBody username body = .ok grant := by
  unfold enrolled at h
  cases hout : answer.outcome with
  | error refusal => rw [hout] at h; cases h
  | ok body =>
    simp only [hout] at h
    refine ⟨body, rfl, ?_⟩
    cases hgrant : Grant.ofBody username body with
    | error fault => rw [hgrant] at h; cases h
    | ok granted =>
      rw [hgrant] at h
      cases h
      rfl

theorem grantedToken?_of_enrolled {username : String} {answer : Answer} {grant : Grant}
    (h : answer.enrolled username = .ok grant) :
    answer.grantedToken? = some grant.token ∧ grant.token ≠ "" := by
  obtain ⟨body, hout, hgrant⟩ := of_enrolled h
  obtain ⟨members, hdata, htoken, hne, -⟩ := Grant.of_ofBody hgrant
  have hfound : answer.data? = some (.obj members) := data?_of_outcome hout hdata
  exact ⟨by simp [grantedToken?, hfound, Json.member?, htoken, Json.asText?], hne⟩

end Answer

namespace Application

variable (app : Application) (transport : Transport) (s : State)

def answerTo (call : Call) : Answer := transport (app.prepare call s.store)

def sending (call : Call) : State := s.record (.sent (app.prepare call s.store))

/-- The state once the answer to a call has come, with the name of the user if somebody signs in
with the call. -/
def receive (answer : Answer) : Option String → State
  | none => (app.settle answer s).2
  | some username =>
    match answer.enrolled username with
    | .ok grant => s.change (Session.establishing grant.token grant.user)
    | .error (.refused refusal) => app.reject refusal s
    | .error (.malformed _) => s

theorem settle_eq (answer : Answer) :
    app.settle answer s = (answer.outcome,
      match answer.outcome with
      | .ok _ => s
      | .error refusal => app.reject refusal s) := by
  unfold settle
  cases answer.outcome <;> rfl

theorem send_fst (call : Call) :
    (app.send transport call s).1 = (app.answerTo transport s call).outcome :=
  congrArg Prod.fst (settle_eq app (app.sending s call) (app.answerTo transport s call))

theorem send_snd (call : Call) :
    (app.send transport call s).2 =
      match (app.answerTo transport s call).outcome with
      | .ok _ => app.sending s call
      | .error refusal => app.reject refusal (app.sending s call) :=
  congrArg Prod.snd (settle_eq app (app.sending s call) (app.answerTo transport s call))

theorem enroll_fst (username : String) (call : Call) :
    (app.enroll transport username call s).1 =
      ((app.answerTo transport s call).enrolled username).map (·.user) := by
  have hfst := send_fst app transport s call
  unfold enroll
  cases hsend : app.send transport call s with
  | mk result next =>
    rw [hsend] at hfst
    simp only [Answer.enrolled, ← hfst]
    cases result with
    | error refusal => rfl
    | ok body =>
      simp only
      cases Grant.ofBody username body <;> rfl

theorem enroll_snd (username : String) (call : Call) :
    (app.enroll transport username call s).2 =
      match (app.answerTo transport s call).enrolled username with
      | .ok grant => (app.sending s call).change (Session.establishing grant.token grant.user)
      | .error (.refused refusal) => app.reject refusal (app.sending s call)
      | .error (.malformed _) => app.sending s call := by
  have hfst := send_fst app transport s call
  have hsnd := send_snd app transport s call
  unfold enroll
  cases hsend : app.send transport call s with
  | mk result next =>
    rw [hsend] at hfst hsnd
    simp only [← hfst] at hsnd
    simp only [Answer.enrolled, ← hfst]
    cases result with
    | error refusal => exact hsnd
    | ok body =>
      simp only at hsnd
      simp only [hsnd]
      cases Grant.ofBody username body <;> rfl

theorem send_eq_receive (call : Call) :
    (app.send transport call s).2 =
      app.receive (app.sending s call) (app.answerTo transport s call) none := rfl

theorem enroll_eq_receive (username : String) (call : Call) :
    (app.enroll transport username call s).2 =
      app.receive (app.sending s call) (app.answerTo transport s call) (some username) :=
  enroll_snd app transport s username call

theorem of_enroll_ok {username : String} {call : Call} {user : Profile} {after : State}
    (h : app.enroll transport username call s = (.ok user, after)) :
    ∃ grant, (app.answerTo transport s call).enrolled username = .ok grant ∧
      grant.user = user ∧ after.store = s.store.apply (Session.establishing grant.token user) := by
  have hfst := enroll_fst app transport s username call
  have hsnd := enroll_snd app transport s username call
  rw [h] at hfst hsnd
  cases hgrant : (app.answerTo transport s call).enrolled username with
  | error fault =>
    rw [hgrant] at hfst
    cases hfst
  | ok grant =>
    rw [hgrant] at hfst hsnd
    cases hfst
    exact ⟨grant, rfl, rfl, congrArg State.store hsnd⟩

end Application

end ClientAccess
