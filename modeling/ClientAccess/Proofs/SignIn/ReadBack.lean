import ClientAccess.Proofs.Navigation.Hops
import ClientAccess.Proofs.Session.Change
import ClientAccess.Proofs.Session.Profile
import ClientAccess.Proofs.SignIn.Enrollment

/-! The session read back after signing in. All members of `data` but three are kept beside the
id and the role of the user, and `id` is not among the three: a user granted with such a member is
stored as a text that is no profile. Without one the user read is the user returned. -/
namespace ClientAccess

namespace Grant

variable {username : String} {members : List (String × Json)}

theorem mem_extraOf (hsorted : (members.map Prod.fst).Pairwise (· < ·)) {p : String × Json}
    (hp : p ∈ (extraOf username members).items) :
    p = ("username", .str username) ∨ p ∈ members := by
  have hkept := Entries.items_ofList_filter
    (fun m => m.1 != "token" && m.1 != "loginId" && m.1 != "role") hsorted
  unfold extraOf at hp
  simp only at hp
  split at hp
  · rw [hkept] at hp
    exact .inr (List.mem_filter.1 hp).1
  · refine (Entries.mem_put hp).imp_right fun hmem => ?_
    rw [hkept] at hmem
    exact (List.mem_filter.1 hmem).1

theorem get?_extraOf (hsorted : (members.map Prod.fst).Pairwise (· < ·)) {key : String}
    (hkey : "username" ≠ key) :
    (extraOf username members).get? key = Entries.find? key
      (members.filter fun m => m.1 != "token" && m.1 != "loginId" && m.1 != "role") := by
  have hkept := Entries.items_ofList_filter
    (fun m => m.1 != "token" && m.1 != "loginId" && m.1 != "role") hsorted
  unfold extraOf
  simp only
  split
  · rw [Entries.get?, hkept]
  · rw [Entries.get?_insert, if_neg hkey, Entries.get?, hkept]

theorem get?_extraOf_id (hsorted : (members.map Prod.fst).Pairwise (· < ·)) :
    (extraOf username members).get? "id" = Entries.find? "id" members := by
  rw [get?_extraOf hsorted (by decide), Entries.find?_filter]
  intro value
  rfl

theorem get?_extraOf_role (hsorted : (members.map Prod.fst).Pairwise (· < ·)) :
    (extraOf username members).get? "role" = none := by
  rw [get?_extraOf hsorted (by decide), Entries.find?_eq_none_iff]
  intro p hp hrole
  simp [hrole] at hp

theorem decode?_encode_user {body : Json} {grant : Grant} (hbody : body.IsPlain Json.depthLimit)
    (h : ofBody username body = .ok grant) :
    Profile.decode? grant.user.encode =
      if ((body.member? "data").bind (Json.member? "id")).isSome then none
      else some grant.user := by
  obtain ⟨members, hdata, -, -, role, -, huser⟩ := of_ofBody h
  have hmembers := (Json.isPlain_obj_iff (Json.depthLimit - 2) members).1 (hbody.member hdata)
  have hextra : grant.user.extra = extraOf username members := congrArg Profile.extra huser
  have hplain : ∀ p ∈ grant.user.extra.items, p.2.IsPlain (Json.depthLimit - 1) := by
    intro p hp
    rw [hextra] at hp
    rcases mem_extraOf hmembers.1 hp with rfl | hp
    · exact .str _ username
    · exact (hmembers.2 p hp).mono (by decide)
  have hid : grant.user.extra.get? "id" = Entries.find? "id" members := by
    rw [hextra, get?_extraOf_id hmembers.1]
  -- An id in `data` is kept among the other members, beside the id that is written first.
  rw [hdata, Option.bind_some, Json.member?, ← hid]
  cases hfound : grant.user.extra.get? "id" with
  | none =>
    have hrole : grant.user.extra.get? "role" = none := by
      rw [hextra, get?_extraOf_role hmembers.1]
    exact Profile.decode?_encode hplain hfound hrole
  | some value =>
    exact Profile.decode?_encode_of_id hplain (by simp [hfound])

end Grant

namespace Answer

def givesId (answer : Answer) : Bool := (answer.data?.bind (Json.member? "id")).isSome

/-- The body, if there is one, has whole numbers only and nests as deep as a text may. -/
def HasPlainBody (answer : Answer) : Prop :=
  ∀ reply, answer = .ok reply → ∀ body, reply.body = some body → body.IsPlain Json.depthLimit

theorem decode?_encode_of_enrolled {username : String} {answer : Answer} {grant : Grant}
    (hplain : answer.HasPlainBody) (h : answer.enrolled username = .ok grant) :
    Profile.decode? grant.user.encode = if answer.givesId then none else some grant.user := by
  obtain ⟨body, hout, hgrant⟩ := of_enrolled h
  obtain ⟨members, hdata, -⟩ := Grant.of_ofBody hgrant
  obtain ⟨reply, hreply, hbody⟩ := of_outcome hout
  -- A missing body has the value `null`, which has no `data` to grant anything with.
  have hsome : reply.body = some body := by
    cases hfound : reply.body with
    | none =>
      rw [hbody, hfound] at hdata
      cases hdata
    | some value => rw [hbody, hfound, Option.getD_some]
  have hid : answer.givesId = ((body.member? "data").bind (Json.member? "id")).isSome := by
    rw [givesId, data?_of_outcome hout hdata, hdata]
  rw [Grant.decode?_encode_user (hplain reply hreply body hsome) hgrant, hid]

end Answer

namespace Application

variable {app : Application} {transport : Transport} {s : State} {answer : Answer}
  {user : Profile} {after : State}

/-- Somebody signs in or registers: the answer, the user returned and the state after it. -/
inductive SignsIn (app : Application) (transport : Transport) (s : State) :
    Answer → Profile → State → Prop where
  | login {user : Profile} {after : State} (credentials : Credentials)
    (h : app.login transport credentials s = (.ok user, after)) :
    SignsIn app transport s (app.answerTo transport s credentials.call) user after
  | register {user : Profile} {after : State} (registration : Registration)
    (h : app.register transport registration s = (.ok user, after)) :
    SignsIn app transport s (app.answerTo transport s registration.call) user after

theorem SignsIn.enrolled (h : app.SignsIn transport s answer user after) :
    ∃ username grant, answer.enrolled username = .ok grant ∧ grant.user = user ∧
      after.store = s.store.apply (Session.establishing grant.token user) := by
  cases h with
  | login credentials h => exact ⟨_, of_enroll_ok app transport s h⟩
  | register registration h => exact ⟨_, of_enroll_ok app transport s h⟩

theorem SignsIn.role_ne_none (h : app.SignsIn transport s answer user after) :
    user.role ≠ none := by
  obtain ⟨username, grant, hgrant, rfl, -⟩ := h.enrolled
  obtain ⟨body, -, hbody⟩ := Answer.of_enrolled hgrant
  obtain ⟨members, -, -, -, role, -, huser⟩ := Grant.of_ofBody hbody
  rw [huser]
  exact Option.some_ne_none _

/-- After signing in the token read is the one granted. The user read, and with it the role, is
the user returned exactly when `data` has no member `id`; otherwise no user is read at all. -/
theorem session_of_signsIn (hplain : answer.HasPlainBody)
    (h : app.SignsIn transport s answer user after) :
    (∃ token, answer.grantedToken? = some token ∧ token ≠ "" ∧
      Session.token? after.store = some token) ∧
    Session.user? after.store = (if answer.givesId then none else some user) ∧
    ((Session.snapshot after.store).role = user.role ↔ answer.givesId = false) := by
  obtain ⟨username, grant, hgrant, huser, hstore⟩ := h.enrolled
  obtain ⟨htoken, hne⟩ := Answer.grantedToken?_of_enrolled hgrant
  have hread : Session.user? after.store = if answer.givesId then none else some user := by
    rw [hstore, Session.user?_establishing, ← huser]
    exact Answer.decode?_encode_of_enrolled hplain hgrant
  refine ⟨⟨grant.token, htoken, hne, ?_⟩, hread, ?_⟩
  · rw [hstore, Session.token?_establishing, if_neg hne]
  · have hrole := h.role_ne_none
    simp only [Session.snapshot, Snapshot.role, hread]
    cases answer.givesId with
    | true => simpa using hrole.symm
    | false => simp

def adminAnswer (others : List (String × Json)) : Answer :=
  .ok ⟨200, some (.obj [("data", .obj (others ++
    [("loginId", .str "alice"), ("role", .str "admin"), ("token", .str "t")])),
    ("success", .bool true)])⟩

theorem session_of_admin :
    (adminAnswer [("email", .str "alice@home")]).HasPlainBody ∧
    ∃ user after, standard.login (fun _ => adminAnswer [("email", .str "alice@home")])
        ⟨"alice", "pw"⟩ (.ofStore (.inMemory .empty)) = (.ok user, after) ∧
      Session.user? after.store = some user ∧
      (Session.snapshot after.store).role = some "admin" := by
  have hplain : (adminAnswer [("email", .str "alice@home")]).HasPlainBody := by
    intro reply hreply body hbody
    cases hreply
    cases hbody
    exact ⟨rfl, rfl, by decide⟩
  have hsigns : standard.SignsIn (fun _ => adminAnswer [("email", .str "alice@home")])
      (.ofStore (.inMemory .empty)) (adminAnswer [("email", .str "alice@home")]) _ _ :=
    .login ⟨"alice", "pw"⟩ rfl
  obtain ⟨-, huser, hrole⟩ := session_of_signsIn hplain hsigns
  exact ⟨hplain, _, _, rfl, huser, hrole.2 rfl⟩

/-- An administrator with a number is let in, but nobody is read back. -/
theorem nobody_of_numbered_admin :
    (adminAnswer [("id", .int 7)]).HasPlainBody ∧
    ∃ user after, standard.login (fun _ => adminAnswer [("id", .int 7)]) ⟨"alice", "pw"⟩
        (.ofStore (.inMemory .empty)) = (.ok user, after) ∧
      user.role = some "admin" ∧ Session.user? after.store = none ∧
      (Session.snapshot after.store).role = none := by
  refine ⟨?_, _, _, rfl, rfl, rfl, rfl⟩
  intro reply hreply body hbody
  cases hreply
  cases hbody
  exact ⟨rfl, rfl, by decide⟩

end Application

end ClientAccess
