import ClientAccess.Proofs.Json.Outline
import ClientAccess.Proofs.SignIn.Failure
import ClientAccess.Proofs.SignIn.ReadBack

/-! What is granted. Three members of `data` have a meaning of their own, each with a way out if it
is missing or empty; all others are kept, and the name somebody signed in with joins them unless
`data` has a name already. The token is one of the three, so it is not stored with the user. -/
namespace ClientAccess

namespace Json

variable {key : String} {body j : Json}

theorem normal_member (h : body.normal = body) (hj : body.member? key = some j) :
    j.normal = j := by
  obtain ⟨members, rfl, hfound⟩ := member?_eq_some_iff.1 hj
  exact ((normal_obj_eq_self_iff members).1 h).2 (key, j) (Entries.mem_of_find? hfound)

theorem Writes.member?_eq_none {v : Json} (h : Writes j.compact v) (hj : j.member? key = none) :
    v.member? key = none := by
  have houtline := member?_outline key v
  rw [h.outline_eq, member?_outline, hj, Option.map_none] at houtline
  exact Option.map_eq_none_iff.1 houtline.symm

end Json

namespace Grant

/-- The id that a member `loginId` grants to somebody with a name. -/
inductive GrantsId (username : String) : Option Json → String → Prop
  | text (s : String) : GrantsId username (some (.str s)) s
  | whole (n : Int) : GrantsId username (some (.int n)) (Json.int n).compact
  | double (x : Binary64) : GrantsId username (some (.float x)) (Json.float x).compact
  | missing : GrantsId username none username
  | null : GrantsId username (some .null) username
  | bool (b : Bool) : GrantsId username (some (.bool b)) username
  | list (items : List Json) : GrantsId username (some (.arr items)) username
  | object (members : List (String × Json)) : GrantsId username (some (.obj members)) username

inductive GrantsRole : Option Json → String → Prop
  | text {s : String} (full : s ≠ "") : GrantsRole (some (.str s)) s
  | empty : GrantsRole (some (.str "")) "user"
  | null : GrantsRole (some .null) "user"
  | missing : GrantsRole none "user"

def ownKeys : List String := ["token", "loginId", "role"]

/-- The members of `data` grant this to somebody with a name. -/
structure Conveys (username : String) (data : Entries Json) (grant : Grant) : Prop where
  token : data.get? "token" = some (.str grant.token)
  full : grant.token ≠ ""
  id : GrantsId username (data.get? "loginId") grant.user.id
  role : ∃ role, grant.user.role = some role ∧ role ≠ "" ∧ GrantsRole (data.get? "role") role
  own : ∀ key ∈ ownKeys, grant.user.extra.get? key = none
  name : grant.user.extra.get? "username" =
    some ((data.get? "username").getD (.str username))
  others : ∀ key ∉ "username" :: ownKeys, grant.user.extra.get? key = data.get? key

variable {username : String} {body : Json} {members : List (String × Json)} {data : Entries Json}
  {grant other : Grant} {value : Option Json}

theorem grantsId_idOf (username : String) (members : List (String × Json)) :
    GrantsId username (Entries.find? "loginId" members) (idOf username members) := by
  unfold idOf
  cases Entries.find? "loginId" members with
  | none => exact .missing
  | some v => cases v <;> constructor

theorem GrantsId.unique {id id' : String} (h : GrantsId username value id)
    (h' : GrantsId username value id') : id = id' := by
  cases h <;> cases h' <;> rfl

theorem GrantsRole.ne_empty {role : String} (h : GrantsRole value role) : role ≠ "" := by
  cases h with
  | text full => exact full
  | _ => decide

theorem GrantsRole.unique {role role' : String} (h : GrantsRole value role)
    (h' : GrantsRole value role') : role = role' := by
  cases h with
  | text full =>
    cases h' with
    | text => rfl
    | empty => exact absurd rfl full
  | empty =>
    cases h' with
    | text full => exact absurd rfl full
    | empty => rfl
  | null => cases h'; rfl
  | missing => cases h'; rfl

theorem grantsRole_of_textOf {text : Option String} (h : textOf "role" members = .ok text) :
    GrantsRole (Entries.find? "role" members) ((nonEmpty text).getD "user") := by
  unfold textOf at h
  split at h
  · next hrole =>
    cases h
    rw [hrole]
    exact .missing
  · next hrole =>
    cases h
    rw [hrole]
    exact .null
  · next s hrole =>
    cases h
    rw [hrole]
    by_cases hs : s = ""
    · rw [hs]
      exact .empty
    · rw [(nonEmpty_eq_some_iff (some s) s).2 ⟨rfl, hs⟩]
      exact .text hs
  · cases h

theorem get?_extraOf_own (hsorted : (members.map Prod.fst).Pairwise (· < ·)) {key : String}
    (hkey : key ∈ ownKeys) : (extraOf username members).get? key = none := by
  have hname : "username" ≠ key := by
    rintro rfl
    exact absurd hkey (by decide)
  rw [get?_extraOf hsorted hname, Entries.find?_eq_none_iff]
  intro p hp he
  have hkept := (List.mem_filter.1 hp).2
  rw [he] at hkept
  obtain rfl | rfl | rfl : key = "token" ∨ key = "loginId" ∨ key = "role" := by
    simpa [ownKeys] using hkey
  all_goals exact absurd hkept (by decide)

theorem get?_extraOf_others (hsorted : (members.map Prod.fst).Pairwise (· < ·)) {key : String}
    (hkey : key ∉ "username" :: ownKeys) :
    (extraOf username members).get? key = Entries.find? key members := by
  simp only [ownKeys, List.mem_cons, List.not_mem_nil, or_false, not_or] at hkey
  obtain ⟨hname, htoken, hid, hrole⟩ := hkey
  rw [get?_extraOf hsorted (Ne.symm hname), Entries.find?_filter]
  intro v
  simp [htoken, hid, hrole]

theorem get?_extraOf_name (hsorted : (members.map Prod.fst).Pairwise (· < ·)) :
    (extraOf username members).get? "username" =
      some ((Entries.find? "username" members).getD (.str username)) := by
  have hkept : (Entries.ofList (members.filter fun m =>
      m.1 != "token" && m.1 != "loginId" && m.1 != "role")).get? "username" =
        Entries.find? "username" members := by
    rw [Entries.get?, Entries.items_ofList_filter _ hsorted, Entries.find?_filter]
    intro v
    rfl
  unfold extraOf
  simp only
  cases hfound : Entries.find? "username" members with
  | none =>
    rw [hfound] at hkept
    rw [if_neg (by simp [hkept]), Entries.get?_insert, if_pos rfl, Option.getD_none]
  | some v =>
    rw [hfound] at hkept
    rw [if_pos (by simp [hkept]), hkept, Option.getD_some]

theorem Conveys.unique (h : Conveys username data grant) (h' : Conveys username data other) :
    grant = other := by
  obtain ⟨token, id, role, extra⟩ := grant
  obtain ⟨token', id', role', extra'⟩ := other
  have htoken : token = token' := by simpa using h.token.symm.trans h'.token
  have hid : id = id' := h.id.unique h'.id
  have hrole : role = role' := by
    obtain ⟨r, hr, -, hgrants⟩ := h.role
    obtain ⟨r', hr', -, hgrants'⟩ := h'.role
    rw [show role = some r from hr, show role' = some r' from hr', hgrants.unique hgrants']
  have hextra : extra = extra' := by
    refine Entries.ext_get? fun key => ?_
    by_cases hown : key ∈ ownKeys
    · exact (h.own key hown).trans (h'.own key hown).symm
    by_cases hname : key = "username"
    · rw [hname]
      exact h.name.trans h'.name.symm
    · have hothers : key ∉ "username" :: ownKeys := List.not_mem_cons_of_ne_of_not_mem hname hown
      exact (h.others key hothers).trans (h'.others key hothers).symm
  rw [htoken, hid, hrole, hextra]

theorem conveys_of_ofBody (hbody : body.normal = body) (h : ofBody username body = .ok grant) :
    ∃ data : Entries Json, body.member? "data" = some (.ofEntries data) ∧
      Conveys username data grant := by
  obtain ⟨members, hdata, htoken, hfull, role, hrole, huser⟩ := of_ofBody h
  have hsorted := ((Json.normal_obj_eq_self_iff members).1 (Json.normal_member hbody hdata)).1
  have hgrants := grantsRole_of_textOf hrole
  obtain ⟨token, user⟩ := grant
  cases huser
  exact ⟨⟨members, hsorted⟩, hdata, {
    token := htoken
    full := hfull
    id := grantsId_idOf username members
    role := ⟨_, rfl, hgrants.ne_empty, hgrants⟩
    own := fun key hkey => get?_extraOf_own hsorted hkey
    name := get?_extraOf_name hsorted
    others := fun key hkey => get?_extraOf_others hsorted hkey }⟩

theorem ofBody_of_conveys (hbody : body.normal = body)
    (hdata : body.member? "data" = some (.ofEntries data)) (h : Conveys username data grant) :
    ofBody username body = .ok grant := by
  have hgrants : body.GrantsSession := by
    obtain ⟨outer, rfl, houter⟩ := Json.member?_eq_some_iff.1 hdata
    refine ⟨outer, data.items, grant.token, rfl, houter, h.token, h.full, fun role hrole => ?_⟩
    obtain ⟨r, -, -, hr⟩ := h.role
    rw [Entries.get?, hrole] at hr
    cases hr with
    | text => exact .inr ⟨_, rfl⟩
    | empty => exact .inr ⟨_, rfl⟩
    | null => exact .inl rfl
  obtain ⟨granted, hgranted⟩ := (exists_ofBody_iff username body).2 hgrants
  obtain ⟨found, hfound, hconveys⟩ := conveys_of_ofBody hbody hgranted
  obtain rfl : data = found := by
    rw [hdata] at hfound
    exact Entries.ext_items (Json.obj.inj (Option.some.inj hfound))
  rw [hgranted, h.unique hconveys]

theorem Conveys.key_ne_token (h : Conveys username data grant) :
    ∀ p ∈ grant.user.members, p.1 ≠ "token" := by
  have hextra := (Entries.find?_eq_none_iff _ _).1 (h.own "token" (by decide))
  obtain ⟨role, hrole, -⟩ := h.role
  intro p hp
  rw [Profile.members, hrole, List.mem_append] at hp
  obtain hp | hp := hp
  · obtain rfl | rfl : p = ("id", .str grant.user.id) ∨ p = ("role", .str role) := by
      simpa using hp
    · exact (by decide : "id" ≠ "token")
    · exact (by decide : "role" ≠ "token")
  · exact hextra p hp

/-- A body grants a session if and only if its `data` conveys one. The token goes nowhere but into
the grant: it is no member of the user, nor of any value that the text stored for the user writes. -/
theorem ofBody_eq_ok_iff_conveys (username : String) (body : Json) (hbody : body.normal = body) :
    (∀ grant, ofBody username body = .ok grant ↔
      ∃ data : Entries Json, body.member? "data" = some (.ofEntries data) ∧
        Conveys username data grant) ∧
    ∀ grant, ofBody username body = .ok grant →
      (∀ p ∈ grant.user.members, p.1 ≠ "token") ∧
      ∀ s, ∃ text, (Session.establish s grant.token grant.user).get? Session.userKey = some text ∧
        text = (Json.obj grant.user.members).compact ∧
        ∀ value, Json.Writes text value → value.member? "token" = none := by
  have hiff (grant : Grant) : ofBody username body = .ok grant ↔
      ∃ data : Entries Json, body.member? "data" = some (.ofEntries data) ∧
        Conveys username data grant := by
    constructor
    · exact conveys_of_ofBody hbody
    · intro ⟨data, hdata, h⟩
      exact ofBody_of_conveys hbody hdata h
  refine ⟨hiff, fun grant hgrant => ?_⟩
  obtain ⟨data, -, hconveys⟩ := (hiff grant).1 hgrant
  refine ⟨hconveys.key_ne_token, fun s => ⟨_, Session.get?_userKey_establishing s _ _, rfl, ?_⟩⟩
  intro value hvalue
  have hnone : (Json.obj grant.user.members).member? "token" = none :=
    (Entries.find?_eq_none_iff _ _).2 hconveys.key_ne_token
  exact hvalue.member?_eq_none hnone

def numbered : Json :=
  .obj [("data", .obj [("email", .null), ("loginId", .int 7), ("role", .str ""),
    ("token", .str "t")])]

theorem ofBody_numbered :
    numbered.normal = numbered ∧ ∃ grant, ofBody "ann" numbered = .ok grant ∧
      grant.user.id = "7" ∧ grant.user.role = some "user" ∧
      grant.user.extra.items = [("email", .null), ("username", .str "ann")] ∧
      ∀ s, ∃ text, (Session.establish s "t" grant.user).get? Session.userKey = some text ∧
        ∀ value, Json.Writes text value → value.member? "token" = none := by
  obtain ⟨-, hgranted⟩ := ofBody_eq_ok_iff_conveys "ann" numbered rfl
  refine ⟨rfl, _, rfl, rfl, rfl, rfl, fun s => ?_⟩
  obtain ⟨text, hstored, -, hvalues⟩ := (hgranted _ rfl).2 s
  exact ⟨text, hstored, hvalues⟩

end Grant

end ClientAccess
