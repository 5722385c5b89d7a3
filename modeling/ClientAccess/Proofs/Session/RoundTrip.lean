import ClientAccess.Proofs.Json.Nesting
import ClientAccess.Proofs.Session.Change
import ClientAccess.Proofs.Session.Profile

/-! The session read back. Whatever text a profile is read from, none of its other members is an id
or a role, and none nests deeper than the object around it allows. These are the only ways in which
a profile can be lost: every other one is read back as it was established. -/
namespace ClientAccess

namespace Profile

variable {u : Profile}

theorem of_ofMembers? {members : List (String × Json)} (h : ofMembers? members = some u) :
    ∀ p ∈ u.extra.items, p.1 ≠ "id" ∧ p.1 ≠ "role" ∧ ∃ j, (p.1, j) ∈ members ∧ p.2 = j.normal := by
  have hextra : u.extra = Entries.ofList (Json.normalMembers
      (members.filter fun m => m.1 != "id" && m.1 != "role")) := by
    unfold ofMembers? at h
    cases hid : (single? "id" members).bind idOfJson? with
    | none => simp [hid] at h
    | some id =>
      cases hrole : (single? "role" members).bind roleOfJson? with
      | none => simp [hid, hrole] at h
      | some role =>
        rw [hid, hrole] at h
        cases h
        rfl
  intro p hp
  rw [hextra] at hp
  have hmem := Entries.mem_of_mem_ofList hp
  rw [Json.normalMembers_eq_map, List.mem_map] at hmem
  obtain ⟨⟨key, j⟩, hkept, rfl⟩ := hmem
  rw [List.mem_filter] at hkept
  obtain ⟨hmember, hkeys⟩ := hkept
  have hnames : key ≠ "id" ∧ key ≠ "role" := by simpa using hkeys
  exact ⟨hnames.1, hnames.2, j, hmember, rfl⟩

theorem of_decode? {text : String} (h : decode? text = some u) :
    u.extra.get? "id" = none ∧ u.extra.get? "role" = none ∧
      ∀ p ∈ u.extra.items, p.2.depth ≤ Json.depthLimit - 1 := by
  unfold decode? at h
  split at h
  · next members hread =>
    have hnested : Json.depthMembers members + 1 ≤ Json.depthLimit :=
      Json.depth_le_of_readAsWritten hread
    have hextra := of_ofMembers? h
    refine ⟨?_, ?_, ?_⟩
    · rw [Entries.get?, Entries.find?_eq_none_iff]
      exact fun p hp => (hextra p hp).1
    · rw [Entries.get?, Entries.find?_eq_none_iff]
      exact fun p hp => (hextra p hp).2.1
    · intro p hp
      obtain ⟨-, -, j, hmember, hvalue⟩ := hextra p hp
      have hj : j.depth ≤ Json.depthMembers members :=
        (Json.depthMembers_le_iff members _).1 (Nat.le_refl _) (p.1, j) hmember
      have hnormal := Json.depth_normal_le j
      rw [hvalue]
      omega
  · cases h

/-- A profile of plain members is read back exactly when none of them is an id or a role and none
nests too deep. -/
theorem decode?_encode_eq_some_iff (hwhole : ∀ p ∈ u.extra.items, p.2.isWhole = true)
    (hnormal : ∀ p ∈ u.extra.items, p.2.normal = p.2) :
    decode? u.encode = some u ↔ u.extra.get? "id" = none ∧ u.extra.get? "role" = none ∧
      ∀ p ∈ u.extra.items, p.2.depth ≤ Json.depthLimit - 1 := by
  constructor
  · exact of_decode?
  · rintro ⟨hid, hrole, hdepth⟩
    exact decode?_encode (fun p hp => ⟨hwhole p hp, hnormal p hp, hdepth p hp⟩) hid hrole

end Profile

namespace Session

/-- A session is established over whatever the store holds. Its user, whose other members are values
of whole numbers, is read back exactly when none of those members is an id or a role and none nests
more than 126 containers; the token is read back exactly when it is not empty. -/
theorem establish_read_back (s : Store) (token : String) (user : Profile)
    (hwhole : ∀ p ∈ user.extra.items, p.2.isWhole = true)
    (hnormal : ∀ p ∈ user.extra.items, p.2.normal = p.2) :
    (user? (establish s token user) = some user ↔
      user.extra.get? "id" = none ∧ user.extra.get? "role" = none ∧
        ∀ p ∈ user.extra.items, p.2.depth ≤ 126) ∧
    token? (establish s token user) = if token = "" then none else some token := by
  refine ⟨?_, token?_establishing s token user⟩
  rw [establish, user?_establishing]
  exact Profile.decode?_encode_eq_some_iff hwhole hnormal

def nest : Nat → Json
  | 0 => .arr []
  | n + 1 => .arr [nest n]

theorem isWhole_nest (n : Nat) : (nest n).isWhole = true := by
  induction n with
  | zero => rfl
  | succ n ih => simp [nest, Json.isWhole, Json.isWholeItems, ih]

theorem normal_nest (n : Nat) : (nest n).normal = nest n := by
  induction n with
  | zero => rfl
  | succ n ih => simp [nest, Json.normal, Json.normalItems, ih]

theorem depth_nest (n : Nat) : (nest n).depth = n + 1 := by
  induction n with
  | zero => rfl
  | succ n ih => simp [nest, Json.depth, Json.depthItems, ih]

def withMember (key : String) (value : Json) : Profile :=
  ⟨"42", some "admin", ⟨[(key, value)], by simp⟩⟩

theorem establish_deepest :
    user? (establish (.inMemory .empty) "t" (withMember "tags" (nest 125))) =
      some (withMember "tags" (nest 125)) ∧
    user? (establish (.inMemory .empty) "t" (withMember "tags" (nest 126))) ≠
      some (withMember "tags" (nest 126)) ∧
    user? (establish (.inMemory .empty) "t" (withMember "role" .null)) ≠
      some (withMember "role" .null) ∧
    token? (establish (.inMemory .empty) "t" (withMember "tags" (nest 126))) = some "t" := by
  have hnested (n : Nat) := establish_read_back (.inMemory .empty) "t" (withMember "tags" (nest n))
    (List.forall_mem_singleton.2 (isWhole_nest n)) (List.forall_mem_singleton.2 (normal_nest n))
  have hrole := establish_read_back (.inMemory .empty) "t" (withMember "role" .null)
    (List.forall_mem_singleton.2 rfl) (List.forall_mem_singleton.2 rfl)
  refine ⟨(hnested 125).1.2 ⟨rfl, rfl, ?_⟩, ?_, ?_, (hnested 126).2⟩
  · exact List.forall_mem_singleton.2 (by simp [depth_nest])
  · intro h
    have hdeep := ((hnested 126).1.1 h).2.2 ("tags", nest 126) List.mem_cons_self
    simp [depth_nest] at hdeep
  · intro h
    have hfree := (hrole.1.1 h).2.1
    cases hfree

end Session

end ClientAccess
