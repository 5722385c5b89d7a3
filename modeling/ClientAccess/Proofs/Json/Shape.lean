import ClientAccess.Json
import ClientAccess.Proofs.Entries

/-! The shape of values: whole numbers, nesting and normal form, each told from the members and
items alone. A plain value has all three, as far as one that has been read can have them. -/
namespace ClientAccess.Json

/-- Whether a number fits 64 bits, one of which is the sign of a number below nought. -/
def fitsWord : Int → Bool
  | .ofNat n => n < 1 <<< 64
  | .negSucc n => n < 1 <<< 63

mutual
def isWhole : Json → Bool
  | int n => fitsWord n
  | float _ => false
  | arr items => isWholeItems items
  | obj members => isWholeMembers members
  | _ => true

def isWholeItems : List Json → Bool
  | [] => true
  | j :: js => isWhole j && isWholeItems js

def isWholeMembers : List (String × Json) → Bool
  | [] => true
  | (_, j) :: ms => isWhole j && isWholeMembers ms
end

mutual
/-- How many lists and objects are around the innermost value, itself included. -/
def depth : Json → Nat
  | arr items => depthItems items + 1
  | obj members => depthMembers members + 1
  | _ => 0

def depthItems : List Json → Nat
  | [] => 0
  | j :: js => max (depth j) (depthItems js)

def depthMembers : List (String × Json) → Nat
  | [] => 0
  | (_, j) :: ms => max (depth j) (depthMembers ms)
end

theorem isWholeItems_cons (j : Json) (js : List Json) :
    isWholeItems (j :: js) = (isWhole j && isWholeItems js) := rfl

theorem isWholeMembers_cons (key : String) (j : Json) (ms : List (String × Json)) :
    isWholeMembers ((key, j) :: ms) = (isWhole j && isWholeMembers ms) := rfl

theorem depthItems_cons (j : Json) (js : List Json) :
    depthItems (j :: js) = max (depth j) (depthItems js) := rfl

theorem depthMembers_cons (key : String) (j : Json) (ms : List (String × Json)) :
    depthMembers ((key, j) :: ms) = max (depth j) (depthMembers ms) := rfl

theorem isWholeMembers_iff (members : List (String × Json)) :
    isWholeMembers members = true ↔ ∀ p ∈ members, p.2.isWhole = true := by
  induction members with
  | nil => simp [isWholeMembers]
  | cons p ms ih =>
    obtain ⟨key, j⟩ := p
    rw [isWholeMembers_cons, Bool.and_eq_true, ih, List.forall_mem_cons]

theorem depthMembers_le_iff (members : List (String × Json)) (n : Nat) :
    depthMembers members ≤ n ↔ ∀ p ∈ members, p.2.depth ≤ n := by
  induction members with
  | nil => simp [depthMembers]
  | cons p ms ih =>
    obtain ⟨key, j⟩ := p
    rw [depthMembers_cons, Nat.max_le, ih, List.forall_mem_cons]

theorem normalMembers_eq_map (members : List (String × Json)) :
    normalMembers members = members.map fun p => (p.1, p.2.normal) := by
  induction members with
  | nil => rfl
  | cons p ms ih => simp [normalMembers, ih]

theorem normalMembers_eq_self_iff (members : List (String × Json)) :
    normalMembers members = members ↔ ∀ p ∈ members, p.2.normal = p.2 := by
  induction members with
  | nil => simp [normalMembers]
  | cons p ms ih =>
    obtain ⟨key, j⟩ := p
    rw [normalMembers, List.cons.injEq, ih, List.forall_mem_cons, Prod.mk.injEq]
    simp only [true_and]

theorem normal_obj_eq_self_iff (members : List (String × Json)) :
    (obj members).normal = obj members ↔
      (members.map Prod.fst).Pairwise (· < ·) ∧ ∀ p ∈ members, p.2.normal = p.2 := by
  have hkeys : (normalMembers members).map Prod.fst = members.map Prod.fst := by
    simp [normalMembers_eq_map]
  rw [normal, obj.injEq, ← normalMembers_eq_self_iff]
  constructor
  · intro h
    have hsorted : (members.map Prod.fst).Pairwise (· < ·) := by
      have hitems := (Entries.ofList (normalMembers members)).sorted
      rwa [h] at hitems
    rw [Entries.items_ofList (by rw [hkeys]; exact hsorted)] at h
    exact ⟨hsorted, h⟩
  · intro ⟨hsorted, hnormal⟩
    rw [hnormal, Entries.items_ofList hsorted]

mutual
theorem normal_normal : ∀ j : Json, j.normal.normal = j.normal
  | .null => rfl
  | .bool _ => rfl
  | .int _ => rfl
  | .float _ => rfl
  | .str _ => rfl
  | .arr items => by rw [normal, normal, normalItems_normalItems items]
  | .obj members => (normal_obj_eq_self_iff _).2 ⟨(Entries.ofList (normalMembers members)).sorted,
      fun p hp => normal_of_mem_normalMembers members p (Entries.mem_of_mem_ofList hp)⟩

theorem normalItems_normalItems : ∀ js : List Json,
    normalItems (normalItems js) = normalItems js
  | [] => rfl
  | j :: js => by
    rw [normalItems, normalItems, normal_normal j, normalItems_normalItems js]

theorem normal_of_mem_normalMembers : ∀ (ms : List (String × Json)), ∀ p ∈ normalMembers ms,
    p.2.normal = p.2
  | (key, j) :: ms, p, hp => by
    rcases List.mem_cons.1 hp with rfl | hp
    · exact normal_normal j
    · exact normal_of_mem_normalMembers ms p hp
end

/-- A value of whole numbers in normal form with at most `n` containers inside one another. -/
structure IsPlain (n : Nat) (j : Json) : Prop where
  whole : j.isWhole = true
  normal : j.normal = j
  shallow : j.depth ≤ n

theorem isPlain_obj_iff (n : Nat) (members : List (String × Json)) :
    (obj members).IsPlain (n + 1) ↔
      (members.map Prod.fst).Pairwise (· < ·) ∧ ∀ p ∈ members, p.2.IsPlain n := by
  constructor
  · intro ⟨hwhole, hnormal, hshallow⟩
    obtain ⟨hsorted, hmembers⟩ := (normal_obj_eq_self_iff members).1 hnormal
    have hdepths := (depthMembers_le_iff members n).1 (Nat.le_of_succ_le_succ hshallow)
    have hwholes := (isWholeMembers_iff members).1 hwhole
    exact ⟨hsorted, fun p hp => ⟨hwholes p hp, hmembers p hp, hdepths p hp⟩⟩
  · intro ⟨hsorted, hplain⟩
    refine ⟨?_, (normal_obj_eq_self_iff members).2 ⟨hsorted, fun p hp => (hplain p hp).normal⟩, ?_⟩
    · exact (isWholeMembers_iff members).2 fun p hp => (hplain p hp).whole
    · exact Nat.succ_le_succ ((depthMembers_le_iff members n).2 fun p hp => (hplain p hp).shallow)

theorem IsPlain.str (n : Nat) (s : String) : (str s).IsPlain n := ⟨rfl, rfl, Nat.zero_le n⟩

theorem IsPlain.mono {n k : Nat} {j : Json} (h : j.IsPlain n) (hk : n ≤ k) : j.IsPlain k :=
  ⟨h.whole, h.normal, Nat.le_trans h.shallow hk⟩

theorem IsPlain.member {n : Nat} {body j : Json} {key : String} (h : body.IsPlain (n + 1))
    (hj : body.member? key = some j) : j.IsPlain n := by
  cases body with
  | obj members => exact ((isPlain_obj_iff n members).1 h).2 (key, j) (Entries.mem_of_find? hj)
  | null => cases hj
  | bool b => cases hj
  | int k => cases hj
  | float x => cases hj
  | str s => cases hj
  | arr items => cases hj

end ClientAccess.Json
