import ClientAccess.Proofs.Navigation.Hops
import ClientAccess.Proofs.SignIn.Enrollment

/-! Outcomes of calls. Every answer is a value or a refusal of one of five kinds; which one, the
status says, and of a successful status the body. A refusal always has a message to show, and where
the body is an object its members have the first say in it. -/
namespace ClientAccess

namespace Answer

def Says (members : List (String × Json)) (key m : String) : Prop :=
  Entries.find? key members = some (.str m) ∧ m ≠ ""

/-- The message an object tells: its `msg`, or else its `message`, or else one that is not its
own. -/
inductive Tells (members : List (String × Json)) (otherwise : String) : String → Prop
  | msg {m : String} (shown : Says members "msg" m) : Tells members otherwise m
  | message {m : String} (noMsg : ∀ k, ¬ Says members "msg" k) (shown : Says members "message" m) :
    Tells members otherwise m
  | otherwise (noMsg : ∀ k, ¬ Says members "msg" k) (noMessage : ∀ k, ¬ Says members "message" k) :
    Tells members otherwise otherwise

/-- The message of a body: what an object tells, or a text, or one that is not its own. -/
inductive BodyTells (otherwise : String) : Option Json → String → Prop
  | object {members : List (String × Json)} {m : String} (tells : Tells members otherwise m) :
    BodyTells otherwise (some (.obj members)) m
  | text {m : String} (shown : m ≠ "") : BodyTells otherwise (some (.str m)) m
  | otherwise {body : Option Json} (noObject : ∀ members, body ≠ some (.obj members))
    (noText : ∀ m, body = some (.str m) → m = "") : BodyTells otherwise body otherwise

def Rejects (body : Option Json) : Prop :=
  ∃ members, body = some (.obj members) ∧ Entries.find? "success" members = some (.bool false)

variable {members : List (String × Json)} {key m otherwise : String} {body : Option Json}
  {status : Nat} {v : Json} {refusal : Refusal} {answer : Answer}

theorem textMember?_eq_some_iff : textMember? key members = some m ↔ Says members key m := by
  rw [textMember?, Option.filter_eq_some_iff, Says, bne_iff_ne, Option.bind_eq_some_iff]
  refine and_congr_left fun _ => ?_
  constructor
  · rintro ⟨value, hfound, htext⟩
    cases value with
    | str s =>
      cases htext
      exact hfound
    | _ => cases htext
  · intro hfound
    exact ⟨.str m, hfound, rfl⟩

theorem textMember?_eq_none_iff : textMember? key members = none ↔ ∀ k, ¬ Says members key k := by
  simp only [Option.eq_none_iff_forall_ne_some, ne_eq, textMember?_eq_some_iff]

theorem tells_bodyMessage? (members : List (String × Json)) (otherwise : String) :
    Tells members otherwise ((bodyMessage? members).getD otherwise) := by
  rw [bodyMessage?]
  cases hmsg : textMember? "msg" members with
  | some m => exact .msg (textMember?_eq_some_iff.1 hmsg)
  | none =>
    have hsilent := textMember?_eq_none_iff.1 hmsg
    cases hmessage : textMember? "message" members with
    | some m => exact .message hsilent (textMember?_eq_some_iff.1 hmessage)
    | none => exact .otherwise hsilent (textMember?_eq_none_iff.1 hmessage)

theorem bodyMessage?_getD_eq_iff :
    (bodyMessage? members).getD otherwise = m ↔ Tells members otherwise m := by
  constructor
  · rintro rfl
    exact tells_bodyMessage? members otherwise
  · intro h
    cases h with
    | msg shown => simp [bodyMessage?, textMember?_eq_some_iff.2 shown]
    | message noMsg shown =>
      simp [bodyMessage?, textMember?_eq_none_iff.2 noMsg, textMember?_eq_some_iff.2 shown]
    | otherwise noMsg noMessage =>
      simp [bodyMessage?, textMember?_eq_none_iff.2 noMsg, textMember?_eq_none_iff.2 noMessage]

theorem Tells.ne_empty (h : Tells members otherwise m) (hother : otherwise ≠ "") : m ≠ "" := by
  cases h with
  | msg shown => exact shown.2
  | message _ shown => exact shown.2
  | otherwise => exact hother

theorem BodyTells.ne_empty (h : BodyTells otherwise body m) (hother : otherwise ≠ "") :
    m ≠ "" := by
  cases h with
  | object tells => exact tells.ne_empty hother
  | text shown => exact shown
  | otherwise => exact hother

theorem statusMessage_ne_empty (status : Nat) : statusMessage status ≠ "" := by
  unfold statusMessage
  split
  all_goals simp

theorem deniesSuccess_eq_true_iff :
    deniesSuccess members = true ↔ Entries.find? "success" members = some (.bool false) := by
  unfold deniesSuccess
  split
  · next h => simp [h]
  · next h => simpa using h

theorem ofBody_of_rejects (h : Entries.find? "success" members = some (.bool false)) :
    ofBody (some (.obj members)) =
      .error (.envelope ((bodyMessage? members).getD "request failed")) :=
  if_pos (deniesSuccess_eq_true_iff.2 h)

theorem ofBody_of_not_rejects (h : ¬ Rejects body) : ofBody body = .ok (body.getD .null) := by
  unfold ofBody
  split
  · rfl
  · next members =>
    have hkept : ¬ deniesSuccess members = true :=
      fun hdenies => h ⟨members, rfl, deniesSuccess_eq_true_iff.1 hdenies⟩
    rw [if_neg hkept, Option.getD_some]
  · rfl

theorem ofBody_eq_ok_iff : ofBody body = .ok v ↔ ¬ Rejects body ∧ v = body.getD .null := by
  by_cases hrejects : Rejects body
  · obtain ⟨members, rfl, hdenies⟩ := hrejects
    have hrejects : Rejects (some (.obj members)) := ⟨members, rfl, hdenies⟩
    simp [ofBody_of_rejects hdenies, hrejects]
  · simp [ofBody_of_not_rejects hrejects, hrejects, eq_comm]

theorem exists_bodyTells (h : status ≠ 401) (body : Option Json) :
    ∃ m, BodyTells (statusMessage status) body m ∧ ofStatus status body = .status status m := by
  unfold ofStatus
  rw [if_neg h]
  refine ⟨_, ?_, rfl⟩
  split
  · next members => exact .object (tells_bodyMessage? members _)
  · next m =>
    split
    · next hshown => exact .text (bne_iff_ne.1 hshown)
    · next hempty =>
      refine .otherwise (by simp) fun k hk => ?_
      cases hk
      simpa using hempty
  · next hobject htext => exact .otherwise hobject fun m hm => absurd hm (htext m)

theorem BodyTells.ofStatus_eq (h : BodyTells (statusMessage status) body m) (hother : status ≠ 401) :
    ofStatus status body = .status status m := by
  unfold ofStatus
  rw [if_neg hother]
  cases h with
  | object tells => simp [bodyMessage?_getD_eq_iff.2 tells]
  | text shown => simp [shown]
  | otherwise noObject noText =>
    simp only [Refusal.status.injEq, true_and]
    split
    · exact absurd rfl (noObject _)
    · next k => simp [noText k rfl]
    · rfl

theorem ofFailure_notSent (detail : String) : ofFailure (.notSent detail) =
    .unsent (if Text.isBlankText detail then "request configuration error" else detail) := by
  rw [ofFailure]
  split <;> rfl

theorem outcome_of_success (h : 200 ≤ status ∧ status ≤ 299) (body : Option Json) :
    outcome (.ok ⟨status, body⟩) = ofBody body :=
  if_pos (by simpa [Reply.isSuccess, Nat.lt_succ_iff] using h)

theorem outcome_of_failure (h : ¬ (200 ≤ status ∧ status ≤ 299)) (body : Option Json) :
    outcome (.ok ⟨status, body⟩) = .error (ofStatus status body) :=
  if_neg (by simpa [Reply.isSuccess, Nat.lt_succ_iff] using h)

theorem outcome_eq_ok_iff : answer.outcome = .ok v ↔
    ∃ status body, answer = .ok ⟨status, body⟩ ∧ (200 ≤ status ∧ status ≤ 299) ∧ ¬ Rejects body ∧
      v = body.getD .null := by
  constructor
  · intro h
    cases answer with
    | error failure => cases h
    | ok reply =>
      obtain ⟨status, body⟩ := reply
      by_cases hstatus : 200 ≤ status ∧ status ≤ 299
      · rw [outcome_of_success hstatus, ofBody_eq_ok_iff] at h
        exact ⟨status, body, rfl, hstatus, h⟩
      · rw [outcome_of_failure hstatus] at h
        cases h
  · rintro ⟨status, body, rfl, hstatus, h⟩
    rw [outcome_of_success hstatus, ofBody_eq_ok_iff]
    exact h

theorem outcome_eq_error_iff : answer.outcome = .error refusal ↔
    (∃ status members m, answer = .ok ⟨status, some (.obj members)⟩ ∧
      (200 ≤ status ∧ status ≤ 299) ∧ Entries.find? "success" members = some (.bool false) ∧
      Tells members "request failed" m ∧ refusal = .envelope m) ∨
    (∃ body, answer = .ok ⟨401, body⟩ ∧
      refusal = .expired "session expired, please log in again") ∨
    (∃ body status m, answer = .ok ⟨status, body⟩ ∧ ¬ (200 ≤ status ∧ status ≤ 299) ∧
      status ≠ 401 ∧ BodyTells (statusMessage status) body m ∧ refusal = .status status m) ∨
    (∃ detail, answer = .error (.noResponse detail) ∧
      refusal = .network "network error, check your connection") ∨
    ∃ detail, answer = .error (.notSent detail) ∧ refusal =
      .unsent (if Text.isBlankText detail then "request configuration error" else detail) := by
  constructor
  · intro h
    rcases answer with (detail | detail) | ⟨status, body⟩
    · cases h
      exact .inr (.inr (.inr (.inl ⟨detail, rfl, rfl⟩)))
    · cases h
      exact .inr (.inr (.inr (.inr ⟨detail, rfl, ofFailure_notSent detail⟩)))
    by_cases hstatus : 200 ≤ status ∧ status ≤ 299
    · rw [outcome_of_success hstatus] at h
      by_cases hrejects : Rejects body
      · obtain ⟨members, rfl, hdenies⟩ := hrejects
        rw [ofBody_of_rejects hdenies] at h
        cases h
        exact .inl ⟨status, members, _, rfl, hstatus, hdenies, tells_bodyMessage? members _, rfl⟩
      · rw [ofBody_of_not_rejects hrejects] at h
        cases h
    · rw [outcome_of_failure hstatus, Except.error.injEq] at h
      subst h
      by_cases hexpired : status = 401
      · subst hexpired
        exact .inr (.inl ⟨body, rfl, rfl⟩)
      · obtain ⟨m, htells, hrefusal⟩ := exists_bodyTells hexpired body
        exact .inr (.inr (.inl ⟨body, status, m, rfl, hstatus, hexpired, htells, hrefusal⟩))
  · rintro (⟨status, members, m, rfl, hstatus, hdenies, htells, rfl⟩ | ⟨body, rfl, rfl⟩ |
      ⟨body, status, m, rfl, hstatus, hother, htells, rfl⟩ | ⟨detail, rfl, rfl⟩ |
      ⟨detail, rfl, rfl⟩)
    · rw [outcome_of_success hstatus, ofBody_of_rejects hdenies, bodyMessage?_getD_eq_iff.2 htells]
    · rfl
    · rw [outcome_of_failure hstatus, htells.ofStatus_eq hother]
    · rfl
    · rw [outcome, ofFailure_notSent]

theorem message_ne_empty (h : answer.outcome = .error refusal) : refusal.message ≠ "" := by
  rcases outcome_eq_error_iff.1 h with ⟨_, _, m, _, _, _, htells, rfl⟩ | ⟨_, _, rfl⟩ |
    ⟨_, status, m, _, _, _, htells, rfl⟩ | ⟨_, _, rfl⟩ | ⟨detail, _, rfl⟩
  · exact htells.ne_empty (by decide)
  · simp [Refusal.message]
  · exact htells.ne_empty (statusMessage_ne_empty status)
  · simp [Refusal.message]
  · simp only [Refusal.message]
    split
    · simp
    · next hblank =>
      rintro rfl
      exact hblank rfl

end Answer

namespace Application

/-- What a call comes to, whatever it was answered. It has a value exactly if a reply came with a
status from 200 to 299 and no object that says `success: false`; the value is the body, and `null`
without one. It is refused by the body exactly if it came with such a status and such an object, by
the end of the session exactly if the status is 401, whatever the body, by any other status as that
status, by the network exactly if no reply came, and as unsent exactly if the request could not be
built. Every refusal has a message, and an object as body tells it in the same way wherever it is
asked for one. -/
theorem send_outcome (app : Application) (transport : Transport) (call : Call) (s : State) :
    let answer := transport (app.prepare call s.store)
    let result := (app.send transport call s).1
    (∀ v, result = .ok v ↔ ∃ status body, answer = .ok ⟨status, body⟩ ∧
      (200 ≤ status ∧ status ≤ 299) ∧ ¬ Answer.Rejects body ∧ v = body.getD .null) ∧
    (∀ m, result = .error (.envelope m) ↔ ∃ status members,
      answer = .ok ⟨status, some (.obj members)⟩ ∧ (200 ≤ status ∧ status ≤ 299) ∧
      Entries.find? "success" members = some (.bool false) ∧
      Answer.Tells members "request failed" m) ∧
    (∀ m, result = .error (.expired m) ↔
      (∃ body, answer = .ok ⟨401, body⟩) ∧ m = "session expired, please log in again") ∧
    (∀ status m, result = .error (.status status m) ↔ ∃ body, answer = .ok ⟨status, body⟩ ∧
      ¬ (200 ≤ status ∧ status ≤ 299) ∧ status ≠ 401 ∧
      Answer.BodyTells (statusMessage status) body m) ∧
    (∀ m, result = .error (.network m) ↔
      (∃ detail, answer = .error (.noResponse detail)) ∧
      m = "network error, check your connection") ∧
    (∀ m, result = .error (.unsent m) ↔ ∃ detail, answer = .error (.notSent detail) ∧
      m = if Text.isBlankText detail then "request configuration error" else detail) ∧
    ∀ refusal, result = .error refusal → refusal.message ≠ "" := by
  intro answer result
  have hresult : result = answer.outcome := send_fst app transport s call
  rw [hresult]
  refine ⟨fun v => Answer.outcome_eq_ok_iff, ?_, ?_, ?_, ?_, ?_,
    fun refusal => Answer.message_ne_empty⟩
  · intro m
    simp [Answer.outcome_eq_error_iff]
  · intro m
    simp [Answer.outcome_eq_error_iff]
  · intro status m
    simp only [Answer.outcome_eq_error_iff, reduceCtorEq, and_false, exists_false, false_or,
      or_false, Refusal.status.injEq]
    constructor
    · rintro ⟨body, _, _, hanswer, hstatus, hother, htells, rfl, rfl⟩
      exact ⟨body, hanswer, hstatus, hother, htells⟩
    · rintro ⟨body, hanswer, hstatus, hother, htells⟩
      exact ⟨body, status, m, hanswer, hstatus, hother, htells, rfl, rfl⟩
  · intro m
    simp [Answer.outcome_eq_error_iff]
  · intro m
    simp [Answer.outcome_eq_error_iff]

def soldOut : List (String × Json) :=
  [("message", .str "sold out"), ("msg", .int 5), ("success", .bool false)]

theorem sold_out_refused :
    (standard.send (fun _ => .ok ⟨200, some (.obj soldOut)⟩) (.get "/api/orders")
      (.ofStore (.inMemory .empty))).1 = .error (.envelope "sold out") ∧
    (standard.send (fun _ => .ok ⟨409, some (.obj soldOut)⟩) (.get "/api/orders")
      (.ofStore (.inMemory .empty))).1 = .error (.status 409 "sold out") ∧
    (standard.send (fun _ => .ok ⟨401, some (.obj soldOut)⟩) (.get "/api/orders")
      (.ofStore (.inMemory .empty))).1 =
        .error (.expired "session expired, please log in again") ∧
    (standard.send (fun _ => .ok ⟨204, some (.obj [("success", .str "false")])⟩)
      (.get "/api/orders") (.ofStore (.inMemory .empty))).1 =
        .ok (.obj [("success", .str "false")]) := by
  have hsend (answer : Answer) :=
    send_outcome standard (fun _ => answer) (.get "/api/orders") (.ofStore (.inMemory .empty))
  have htells (otherwise : String) : Answer.Tells soldOut otherwise "sold out" := by
    refine .message (fun k hk => ?_) ⟨rfl, by decide⟩
    cases hk.1
  refine ⟨?_, ?_, ?_, ?_⟩
  · exact ((hsend _).2.1 _).2 ⟨200, soldOut, rfl, by decide, rfl, htells _⟩
  · exact ((hsend _).2.2.2.1 _ _).2 ⟨_, rfl, by decide, by decide, .object (htells _)⟩
  · exact ((hsend _).2.2.1 _).2 ⟨⟨_, rfl⟩, rfl⟩
  · refine ((hsend _).1 _).2 ⟨204, _, rfl, by decide, ?_, rfl⟩
    rintro ⟨members, hbody, hdenies⟩
    cases hbody
    cases hdenies

end Application

end ClientAccess
