import ClientAccess.Proofs.Json.Numbers
import ClientAccess.Proofs.Session.RoundTrip

/-! Which texts are profiles. A stored text is one exactly if it writes an object, nested within the
reader's limit, whose members say an id and a role at most once each; what they say and the other
members make the profile. Such a profile is read back when it is established, unless it holds a
double. -/
namespace ClientAccess

open Json (Writes)

namespace Profile

/-- What the values of the key of the id say: a text is the id, a number is kept as it is printed. -/
inductive SaysId : List Json → String → Prop
  | missing : SaysId [] ""
  | null : SaysId [.null] ""
  | text (s : String) : SaysId [.str s] s
  | whole (n : Int) : SaysId [.int n] (Json.int n).compact
  | double (x : Binary64) : SaysId [.float x] (Json.float x).compact

inductive SaysRole : List Json → Option String → Prop
  | missing : SaysRole [] none
  | null : SaysRole [.null] none
  | text (s : String) : SaysRole [.str s] (some s)

/-- The members of an object, as written, describe a profile. Of other keys the last value counts. -/
structure Describes (members : List (String × Json)) (u : Profile) : Prop where
  id : SaysId (valuesOf "id" members) u.id
  role : SaysRole (valuesOf "role" members) u.role
  extra : ∀ key, u.extra.get? key =
    if key = "id" ∨ key = "role" then none
    else (Entries.find? key members.reverse).map Json.normal

variable {u : Profile} {members : List (String × Json)}

theorem saysId_iff {id : String} :
    (single? "id" members).bind idOfJson? = some id ↔ SaysId (valuesOf "id" members) id := by
  unfold single?
  constructor
  · intro h
    split at h
    · next hvalues =>
      rw [hvalues]
      cases h
      exact .missing
    · next v hvalues =>
      rw [hvalues]
      cases v <;> cases h <;> constructor
    · cases h
  · intro h
    generalize valuesOf "id" members = values at h
    cases h <;> rfl

theorem saysRole_iff {role : Option String} :
    (single? "role" members).bind roleOfJson? = some role ↔
      SaysRole (valuesOf "role" members) role := by
  unfold single?
  constructor
  · intro h
    split at h
    · next hvalues =>
      rw [hvalues]
      cases h
      exact .missing
    · next v hvalues =>
      rw [hvalues]
      cases v <;> cases h <;> constructor
    · cases h
  · intro h
    generalize valuesOf "role" members = values at h
    cases h <;> rfl

theorem get?_others (members : List (String × Json)) (key : String) :
    (Entries.ofList (Json.normalMembers
      (members.filter fun m => m.1 != "id" && m.1 != "role"))).get? key =
    if key = "id" ∨ key = "role" then none
    else (Entries.find? key members.reverse).map Json.normal := by
  rw [Entries.get?_ofList, Json.normalMembers_eq_map, ← List.map_reverse, Entries.find?_map,
    ← List.filter_reverse]
  split
  · next hkey =>
    have hnone : Entries.find? key
        (members.reverse.filter fun m => m.1 != "id" && m.1 != "role") = none := by
      rw [Entries.find?_eq_none_iff]
      intro p hp he
      have hkept := (List.mem_filter.1 hp).2
      rcases hkey with rfl | rfl
      · simp [he] at hkept
      · simp [he] at hkept
    rw [hnone, Option.map_none]
  · next hkey =>
    obtain ⟨hid, hrole⟩ := not_or.1 hkey
    rw [Entries.find?_filter fun value => by simp [hid, hrole]]

theorem ofMembers?_eq_some_iff : ofMembers? members = some u ↔ Describes members u := by
  constructor
  · intro h
    unfold ofMembers? at h
    obtain ⟨id, hid, h⟩ := Option.bind_eq_some_iff.1 h
    obtain ⟨role, hrole, h⟩ := Option.bind_eq_some_iff.1 h
    cases h
    exact ⟨saysId_iff.1 hid, saysRole_iff.1 hrole, get?_others members⟩
  · intro ⟨hid, hrole, hextra⟩
    have hsame : Entries.ofList (Json.normalMembers
        (members.filter fun m => m.1 != "id" && m.1 != "role")) = u.extra :=
      Entries.ext_get? fun key => (get?_others members key).trans (hextra key).symm
    simp [ofMembers?, saysId_iff.2 hid, saysRole_iff.2 hrole, hsame]

theorem decode?_eq_some_iff {text : String} :
    decode? text = some u ↔ ∃ members, Writes text (.obj members) ∧
      (Json.obj members).depth ≤ 127 ∧ Describes members u := by
  constructor
  · intro h
    unfold decode? at h
    split at h
    · next members hread =>
      obtain ⟨hwrites, hdepth⟩ := Json.readAsWritten_eq_ok_iff.1 hread
      exact ⟨members, hwrites, hdepth, ofMembers?_eq_some_iff.1 h⟩
    · cases h
  · intro ⟨members, hwrites, hdepth, hdescribes⟩
    have hread : Json.readAsWritten Json.depthLimit text = .ok (.obj members) :=
      Json.readAsWritten_of_writes hwrites hdepth
    rw [decode?, hread]
    exact ofMembers?_eq_some_iff.2 hdescribes

theorem decode?_encode_of_decode? {text : String} (h : decode? text = some u)
    (hints : ∀ p ∈ u.extra.items, ∀ v ∈ p.2.numbers, ∃ n, v = .int n) :
    decode? u.encode = some u := by
  obtain ⟨members, hwrites, -, hdescribes⟩ := decode?_eq_some_iff.1 h
  have hextra := of_ofMembers? (ofMembers?_eq_some_iff.2 hdescribes)
  refine (decode?_encode_eq_some_iff ?_ ?_).2 (of_decode? h)
  · intro p hp
    obtain ⟨-, -, j, hmember, hvalue⟩ := hextra p hp
    refine hwrites.isWhole_of_ints (fun v hv => ?_) (hints p hp)
    rw [hvalue] at hv
    exact Json.mem_numbersMembers.2 ⟨_, hmember, Json.mem_numbers_of_normal j hv⟩
  · intro p hp
    obtain ⟨-, -, j, -, hvalue⟩ := hextra p hp
    rw [hvalue, Json.normal_normal]

end Profile

namespace Session

/-- The user of a session is what the stored text says, and none if it is not the text of a profile;
the token does not depend on that text. A user without doubles that has been read is read back when
it is established again, over whatever store and with whatever token. -/
theorem user?_as_stored (s : Store) :
    (∀ user, user? s = some user ↔ ∃ text members, s.get? userKey = some text ∧
      Writes text (.obj members) ∧ (Json.obj members).depth ≤ 127 ∧
      Profile.Describes members user) ∧
    (user? s = none ↔ ∀ text members user, s.get? userKey = some text →
      Writes text (.obj members) → (Json.obj members).depth ≤ 127 →
      ¬ Profile.Describes members user) ∧
    (∀ text, token? (s.apply (.set userKey text)) = token? s) ∧
    ∀ user, user? s = some user →
      (∀ p ∈ user.extra.items, ∀ v ∈ p.2.numbers, ∃ n, v = .int n) →
      ∀ (other : Store) (token : String), user? (establish other token user) = some user := by
  have hread (user : Profile) : user? s = some user ↔ ∃ text members, s.get? userKey = some text ∧
      Writes text (.obj members) ∧ (Json.obj members).depth ≤ 127 ∧
      Profile.Describes members user := by
    rw [user?, Option.bind_eq_some_iff]
    constructor
    · rintro ⟨text, htext, hdecode⟩
      obtain ⟨members, hmembers⟩ := Profile.decode?_eq_some_iff.1 hdecode
      exact ⟨text, members, htext, hmembers⟩
    · rintro ⟨text, members, htext, hmembers⟩
      exact ⟨text, htext, Profile.decode?_eq_some_iff.2 ⟨members, hmembers⟩⟩
  refine ⟨hread, ?_, ?_, ?_⟩
  · rw [Option.eq_none_iff_forall_ne_some]
    constructor
    · intro hnone text members user htext hwrites hdepth hdescribes
      exact hnone user ((hread user).2 ⟨text, members, htext, hwrites, hdepth, hdescribes⟩)
    · intro hno user huser
      obtain ⟨text, members, htext, hwrites, hdepth, hdescribes⟩ := (hread user).1 huser
      exact hno text members user htext hwrites hdepth hdescribes
  · intro text
    have hkeys : userKey ≠ tokenKey := by decide
    rw [token?, token?, Store.get?_apply, Entries.apply, Entries.get?_insert, if_neg hkeys]
    rfl
  · intro user huser hints other token
    obtain ⟨text, -, hdecode⟩ := Option.bind_eq_some_iff.1 huser
    rw [establish, user?_establishing]
    exact Profile.decode?_encode_of_decode? hdecode hints

def withUser (text : String) : Store := .inMemory (Entries.empty.insert userKey text)

def numbered : List (String × Json) :=
  [("id", .int 42), ("role", .str "admin"), ("seat", .null), ("seat", .arr [.int 2])]

theorem describes_numbered : Profile.Describes numbered (withMember "seat" (.arr [.int 2])) := by
  refine ⟨.whole 42, .text "admin", fun key => ?_⟩
  by_cases hid : key = "id"
  · subst hid
    rfl
  by_cases hrole : key = "role"
  · subst hrole
    rfl
  simp only [hid, hrole, or_self, if_false]
  by_cases hseat : "seat" = key
  · subst hseat
    rfl
  · simp [numbered, withMember, Entries.get?, Entries.find?, hseat, Ne.symm hid, Ne.symm hrole]

theorem numbered_as_stored :
    user? (withUser (Json.obj numbered).compact) = some (withMember "seat" (.arr [.int 2])) ∧
    user? (establish (.inMemory .empty) "t" (withMember "seat" (.arr [.int 2]))) =
      some (withMember "seat" (.arr [.int 2])) ∧
    user? (withUser (Json.obj (("id", .null) :: numbered)).compact) = none := by
  have hstored := user?_as_stored (withUser (Json.obj numbered).compact)
  have hwrites : Writes (Json.obj numbered).compact (.obj numbered) := Json.writes_compact rfl
  have hread := (hstored.1 _).2 ⟨_, _, rfl, hwrites, by decide, describes_numbered⟩
  refine ⟨hread, hstored.2.2.2 _ hread ?_ _ _, ?_⟩
  · simp [withMember, Json.numbers, Json.numbersItems]
  · refine (user?_as_stored _).2.1.2 fun text members user htext hmembers _ hdescribes => ?_
    have hsame : (Json.obj (("id", .null) :: numbered)).compact = text := Option.some.inj htext
    rw [← hsame] at hmembers
    have hobject : Json.obj members = .obj (("id", .null) :: numbered) :=
      hmembers.unique (Json.writes_compact rfl)
    cases hobject
    have hid : Profile.SaysId [.null, .int 42] user.id := hdescribes.id
    cases hid

end Session

end ClientAccess
