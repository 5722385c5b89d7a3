import ClientAccess.Proofs.Json.RoundTrip
import ClientAccess.Proofs.Text.Utf8
import ClientAccess.Store

/-! The text of a session file. Whatever texts a map holds, the text written for it is read as this
map again, its members in order. So different maps have different texts. -/
namespace ClientAccess

namespace Json

def textMembers (pairs : List (String × String)) : List (String × Json) :=
  pairs.map fun p => (p.1, .str p.2)

theorem isPlain_of_mem_textMembers {pairs : List (String × String)} {p : String × Json}
    (h : p ∈ textMembers pairs) : p.2.IsPlain 0 := by
  obtain ⟨q, -, rfl⟩ := List.mem_map.1 h
  exact .str 0 q.2

theorem depth_textMembers (pairs : List (String × String)) :
    (obj (textMembers pairs)).depth ≤ 1 := by
  have hshallow : depthMembers (textMembers pairs) ≤ 0 :=
    (depthMembers_le_iff _ 0).2 fun p hp => (isPlain_of_mem_textMembers hp).shallow
  exact Nat.succ_le_succ hshallow

theorem readAsWritten_pretty_texts {limit : Nat} (hlimit : 0 < limit)
    (pairs : List (String × String)) :
    readAsWritten limit (obj (textMembers pairs)).pretty = .ok (.obj (textMembers pairs)) := by
  have hwhole : (obj (textMembers pairs)).isWhole = true :=
    (isWholeMembers_iff _).2 fun p hp => (isPlain_of_mem_textMembers hp).whole
  exact readAsWritten_pretty hwhole (Nat.le_trans (depth_textMembers pairs) hlimit)

end Json

namespace Entries

theorem textMembers?_textMembers (pairs : List (String × String)) :
    textMembers? (Json.textMembers pairs) = some pairs := by
  induction pairs with
  | nil => rfl
  | cons p rest ih => simpa [Json.textMembers, textMembers?] using ih

theorem ofFileText?_toFileText (e : Entries String) : ofFileText? e.toFileText = some e := by
  have hread : Json.readAsWritten Json.depthLimit e.toFileText =
      .ok (.obj (Json.textMembers e.items)) :=
    Json.readAsWritten_pretty_texts (by decide) e.items
  rw [ofFileText?, hread]
  simp only [textMembers?_textMembers, Option.map_some, ofList_items]

theorem ofFileBytes_toFileText (e : Entries String) : ofFileBytes e.toFileText.toUTF8 = e := by
  rw [ofFileBytes, Text.fromUTF8?_toUTF8, Option.bind_some, ofFileText?_toFileText,
    Option.getD_some]

theorem toFileText_toUTF8_inj {a b : Entries String} :
    a.toFileText.toUTF8 = b.toFileText.toUTF8 ↔ a = b := by
  constructor
  · intro h
    rw [← ofFileBytes_toFileText a, h, ofFileBytes_toFileText]
  · rintro rfl
    rfl

end Entries

end ClientAccess
