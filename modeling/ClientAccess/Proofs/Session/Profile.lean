import ClientAccess.Profile
import ClientAccess.Proofs.Json.RoundTrip

/-! Profiles and the text they are stored as. The id and the role are written before the other
members, under keys that those may have as well. A text with such a key twice is no profile. -/
namespace ClientAccess.Profile

variable {u : Profile}

theorem valuesOf_cons (key : String) (p : String × Json) (members : List (String × Json)) :
    valuesOf key (p :: members) =
      if p.1 = key then p.2 :: valuesOf key members else valuesOf key members := by
  by_cases hkey : p.1 = key
  · simp [valuesOf, hkey]
  · simp [valuesOf, hkey]

theorem valuesOf_eq_nil_iff (key : String) (members : List (String × Json)) :
    valuesOf key members = [] ↔ Entries.find? key members = none := by
  rw [Entries.find?_eq_none_iff]
  simp [valuesOf, List.filter_eq_nil_iff]

theorem single?_eq_none {key : String} {members : List (String × Json)} {v : Json}
    {vs : List Json} (h : valuesOf key members = v :: vs) (hne : vs ≠ []) :
    single? key members = none := by
  cases vs with
  | nil => exact absurd rfl hne
  | cons w ws => simp [single?, h]

theorem valuesOf_id_members (u : Profile) :
    valuesOf "id" u.members = .str u.id :: valuesOf "id" u.extra.items := by
  cases hrole : u.role with
  | none => simp [members, hrole, valuesOf_cons]
  | some role => simp [members, hrole, valuesOf_cons]

theorem valuesOf_role_members (u : Profile) :
    valuesOf "role" u.members =
      (u.role.map Json.str).toList ++ valuesOf "role" u.extra.items := by
  cases hrole : u.role with
  | none => simp [members, hrole, valuesOf_cons]
  | some role => simp [members, hrole, valuesOf_cons]

theorem others_members (hid : u.extra.get? "id" = none) (hrole : u.extra.get? "role" = none) :
    u.members.filter (fun m => m.1 != "id" && m.1 != "role") = u.extra.items := by
  have hids := (Entries.find?_eq_none_iff "id" u.extra.items).1 hid
  have hroles := (Entries.find?_eq_none_iff "role" u.extra.items).1 hrole
  have hextra : u.extra.items.filter (fun m => m.1 != "id" && m.1 != "role") = u.extra.items := by
    rw [List.filter_eq_self]
    intro p hp
    simp [hids p hp, hroles p hp]
  cases hr : u.role with
  | none => simp [members, hr, hextra]
  | some role => simp [members, hr, hextra]

theorem ofMembers?_members (hid : u.extra.get? "id" = none) (hrole : u.extra.get? "role" = none)
    (hnormal : ∀ p ∈ u.extra.items, p.2.normal = p.2) : ofMembers? u.members = some u := by
  have hids : single? "id" u.members = some (.str u.id) := by
    rw [single?, valuesOf_id_members, (valuesOf_eq_nil_iff "id" u.extra.items).2 hid]
  have hroles : (single? "role" u.members).bind roleOfJson? = some u.role := by
    rw [single?, valuesOf_role_members, (valuesOf_eq_nil_iff "role" u.extra.items).2 hrole]
    cases u.role with
    | none => rfl
    | some role => rfl
  have hextra : Entries.ofList (Json.normalMembers u.extra.items) = u.extra := by
    rw [(Json.normalMembers_eq_self_iff u.extra.items).2 hnormal, Entries.ofList_items]
  simp [ofMembers?, hids, hroles, idOfJson?, others_members hid hrole, hextra]

theorem ofMembers?_members_of_id (hid : u.extra.get? "id" ≠ none) :
    ofMembers? u.members = none := by
  have htwice : single? "id" u.members = none :=
    single?_eq_none (valuesOf_id_members u) fun h => hid ((valuesOf_eq_nil_iff _ _).1 h)
  simp [ofMembers?, htwice]

theorem decode?_encode_eq (h : ∀ p ∈ u.extra.items, p.2.IsPlain (Json.depthLimit - 1)) :
    decode? u.encode = ofMembers? u.members := by
  have hplain : ∀ p ∈ u.members, p.2.IsPlain (Json.depthLimit - 1) := by
    intro p hp
    rw [members, List.mem_append, List.mem_cons] at hp
    rcases hp with (rfl | hp) | hp
    · exact .str _ u.id
    · obtain ⟨role, -, rfl⟩ : ∃ role, u.role = some role ∧ ("role", .str role) = p := by
        simpa using hp
      exact .str _ role
    · exact h p hp
  have hwhole : (Json.obj u.members).isWhole = true :=
    (Json.isWholeMembers_iff u.members).2 fun p hp => (hplain p hp).whole
  have hdepth : (Json.obj u.members).depth ≤ Json.depthLimit :=
    Nat.succ_le_succ ((Json.depthMembers_le_iff u.members _).2 fun p hp => (hplain p hp).shallow)
  rw [decode?, encode, Json.readAsWritten_compact hwhole hdepth]

theorem decode?_encode (h : ∀ p ∈ u.extra.items, p.2.IsPlain (Json.depthLimit - 1))
    (hid : u.extra.get? "id" = none) (hrole : u.extra.get? "role" = none) :
    decode? u.encode = some u := by
  rw [decode?_encode_eq h, ofMembers?_members hid hrole fun p hp => (h p hp).normal]

theorem decode?_encode_of_id (h : ∀ p ∈ u.extra.items, p.2.IsPlain (Json.depthLimit - 1))
    (hid : u.extra.get? "id" ≠ none) : decode? u.encode = none := by
  rw [decode?_encode_eq h, ofMembers?_members_of_id hid]

end ClientAccess.Profile
