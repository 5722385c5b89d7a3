import ClientAccess.Proofs.Json.Moves
import ClientAccess.Proofs.Json.Shape
import ClientAccess.Proofs.Json.Whole

/-! Nesting of what has been read. The machine opens no container beyond the limit, and whatever it
has read so far nests within what is left of the limit below the containers that are still open. One
character keeps that, so no value that is read from a text nests deeper than the limit. -/
namespace ClientAccess.Json

theorem depthItems_le_iff (items : List Json) (n : Nat) :
    depthItems items ≤ n ↔ ∀ j ∈ items, j.depth ≤ n := by
  induction items with
  | nil => simp [depthItems]
  | cons j js ih => rw [depthItems_cons, Nat.max_le, ih, List.forall_mem_cons]

theorem depthItems_le_of_subset {js ks : List Json} (h : ∀ j ∈ js, j ∈ ks) :
    depthItems js ≤ depthItems ks := by
  rw [depthItems_le_iff]
  intro j hj
  exact (depthItems_le_iff ks _).1 (Nat.le_refl _) j (h j hj)

theorem depthMembers_le_of_subset {ms ns : List (String × Json)} (h : ∀ p ∈ ms, p ∈ ns) :
    depthMembers ms ≤ depthMembers ns := by
  rw [depthMembers_le_iff]
  intro p hp
  exact (depthMembers_le_iff ns _).1 (Nat.le_refl _) p (h p hp)

theorem depthItems_reverse_le (js : List Json) : depthItems js.reverse ≤ depthItems js :=
  depthItems_le_of_subset fun _ => List.mem_reverse.1

theorem depthMembers_reverse_le (ms : List (String × Json)) :
    depthMembers ms.reverse ≤ depthMembers ms :=
  depthMembers_le_of_subset fun _ => List.mem_reverse.1

mutual
theorem depth_normal_le : ∀ j : Json, j.normal.depth ≤ j.depth
  | .null => Nat.le_refl _
  | .bool _ => Nat.le_refl _
  | .int _ => Nat.le_refl _
  | .float _ => Nat.le_refl _
  | .str _ => Nat.le_refl _
  | .arr items => by
    have hitems := depthItems_normalItems_le items
    simp only [normal, depth]
    omega
  | .obj members => by
    have hkept : depthMembers (Entries.ofList (normalMembers members)).items ≤
        depthMembers (normalMembers members) :=
      depthMembers_le_of_subset fun p hp => Entries.mem_of_mem_ofList hp
    have hmembers := depthMembers_normalMembers_le members
    simp only [normal, depth]
    omega

theorem depthItems_normalItems_le : ∀ js : List Json, depthItems (normalItems js) ≤ depthItems js
  | [] => Nat.le_refl _
  | j :: js => by
    have hfirst := depth_normal_le j
    have hrest := depthItems_normalItems_le js
    simp only [normalItems, depthItems_cons]
    omega

theorem depthMembers_normalMembers_le :
    ∀ ms : List (String × Json), depthMembers (normalMembers ms) ≤ depthMembers ms
  | [] => Nat.le_refl _
  | (key, j) :: ms => by
    have hfirst := depth_normal_le j
    have hrest := depthMembers_normalMembers_le ms
    simp only [normalMembers, depthMembers_cons]
    omega
end

def Frame.depth : Frame → Nat
  | .list items => depthItems items
  | .member members _ => depthMembers members

/-- How deep nests what is being read inside the open containers; an object between two of its
members is not on the stack. -/
def Mode.depth : Mode → Nat
  | .value | .nextItem | .numeral _ | .text .value _ _ => 0
  | .firstItem | .firstKey => 1
  | .nextKey members | .colon members _ | .text (.key members) _ _ => depthMembers members + 1
  | .word _ _ v | .done v => v.depth

/-- Every open container nests within the limit, those around it counted. -/
inductive StackFits (limit : Nat) : List Frame → Prop where
  | nil : StackFits limit []
  | cons {f : Frame} {rest : List Frame} (contents : rest.length + 1 + f.depth ≤ limit)
    (below : StackFits limit rest) : StackFits limit (f :: rest)

structure Machine.Fits (limit : Nat) (m : Machine) : Prop where
  stack : StackFits limit m.stack
  mode : m.stack.length + m.mode.depth ≤ limit

variable {limit : Nat} {stack : List Frame} {c : Char} {v : Json} {m n : Machine}

theorem StackFits.length_le (h : StackFits limit stack) : stack.length ≤ limit := by
  cases h with
  | nil => exact Nat.zero_le limit
  | cons contents below =>
    rw [List.length_cons]
    omega

theorem stackFits_cons_iff {f : Frame} : StackFits limit (f :: stack) ↔
    stack.length + 1 + f.depth ≤ limit ∧ StackFits limit stack := by
  constructor
  · intro h
    cases h with
    | cons contents below => exact ⟨contents, below⟩
  · exact fun h => .cons h.1 h.2

theorem Numeral.depth_value {k : Numeral} (h : k.value = .ok v) : v.depth = 0 := by
  rcases Numeral.value_cases h with ⟨n, rfl⟩ | ⟨x, rfl⟩
  · rfl
  · rfl

theorem fits_beginValue (hstack : StackFits limit stack) (h : BeginValue limit stack c n) :
    n.Fits limit := by
  have hlength := hstack.length_le
  cases h with
  | list room => exact ⟨hstack, room⟩
  | object room => exact ⟨hstack, room⟩
  | _ => exact ⟨hstack, hlength⟩

theorem fits_afterValue (hstack : StackFits limit stack) (hv : stack.length + v.depth ≤ limit)
    (h : AfterValue v stack c n) : n.Fits limit := by
  cases h with
  | blank space => exact ⟨hstack, hv⟩
  | @item items rest =>
    obtain ⟨hcontents, hbelow⟩ := stackFits_cons_iff.1 hstack
    rw [List.length_cons] at hv
    simp only [Frame.depth] at hcontents
    have hitems : StackFits limit (.list (v :: items) :: rest) := by
      refine .cons ?_ hbelow
      simp only [Frame.depth, depthItems_cons]
      omega
    exact ⟨hitems, hitems.length_le⟩
  | @list items rest =>
    obtain ⟨hcontents, hbelow⟩ := stackFits_cons_iff.1 hstack
    have hitems := depthItems_reverse_le (v :: items)
    rw [depthItems_cons] at hitems
    rw [List.length_cons] at hv
    simp only [Frame.depth] at hcontents
    refine ⟨hbelow, ?_⟩
    simp only [Mode.depth, depth]
    omega
  | @member members key rest =>
    obtain ⟨hcontents, hbelow⟩ := stackFits_cons_iff.1 hstack
    rw [List.length_cons] at hv
    simp only [Frame.depth] at hcontents
    refine ⟨hbelow, ?_⟩
    simp only [Mode.depth, depthMembers_cons]
    omega
  | @object members key rest =>
    obtain ⟨hcontents, hbelow⟩ := stackFits_cons_iff.1 hstack
    have hmembers := depthMembers_reverse_le ((key, v) :: members)
    rw [depthMembers_cons] at hmembers
    rw [List.length_cons] at hv
    simp only [Frame.depth] at hcontents
    refine ⟨hbelow, ?_⟩
    simp only [Mode.depth, depth]
    omega

theorem Machine.Fits.moves (hm : m.Fits limit) (h : Moves limit m c n) : n.Fits limit := by
  obtain ⟨hstack, hmode⟩ := hm
  cases h with
  | value begins => exact fits_beginValue hstack begins
  | @firstItem stack c n begins =>
    have hcontents : stack.length + 1 + (Frame.list []).depth ≤ limit := hmode
    exact fits_beginValue (.cons hcontents hstack) begins
  | nextItem begins => exact fits_beginValue hstack begins
  | @colon stack members key =>
    have hcontents : stack.length + 1 + (Frame.member members key).depth ≤ limit := by
      simp only [Mode.depth] at hmode
      simp only [Frame.depth]
      omega
    have hinner : StackFits limit (.member members key :: stack) := .cons hcontents hstack
    exact ⟨hinner, hinner.length_le⟩
  | number ends value after =>
    refine fits_afterValue hstack ?_ after
    rw [Numeral.depth_value value]
    exact hstack.length_le
  | @text stack purpose chars chars' escape escape' c next =>
    cases purpose <;> exact ⟨hstack, hmode⟩
  | @quote stack purpose chars => cases purpose <;> exact ⟨hstack, hmode⟩
  | done after => exact fits_afterValue hstack hmode after
  | _ => exact ⟨hstack, hmode⟩

theorem depth_le_of_readAsWritten {text : String} (h : readAsWritten limit text = .ok v) :
    v.depth ≤ limit := by
  have hstart : Machine.initial.Fits limit := ⟨.nil, Nat.zero_le limit⟩
  obtain ⟨k, hk, hfinish⟩ := Machine.exists_finish (fun m _ => m.Fits limit)
    (fun hm hmoves => hm.moves hmoves) [] hstart h
  rcases Machine.finish_cases hfinish with rfl | ⟨n, rfl, -, hn⟩
  · simpa [Mode.depth] using hk.mode
  · rw [Numeral.depth_value hn]
    exact Nat.zero_le limit

end ClientAccess.Json
