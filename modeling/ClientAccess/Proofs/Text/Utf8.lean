/-! Texts as bytes. The bytes of a text are those of its characters one after the other, and bytes
are read as the text whose bytes they are, if there is one. -/
namespace ClientAccess.Text

theorem toList_toUTF8_ofList (cs : List Char) :
    (String.ofList cs).toUTF8.data.toList = cs.flatMap String.utf8EncodeChar := by
  rw [String.toUTF8_eq_toByteArray, String.toByteArray_ofList, List.utf8Encode,
    List.data_toByteArray]

theorem toUTF8_inj {s t : String} : s.toUTF8 = t.toUTF8 ↔ s = t := by
  rw [String.toUTF8_eq_toByteArray, String.toUTF8_eq_toByteArray, String.toByteArray_inj]

theorem fromUTF8?_toUTF8 (s : String) : String.fromUTF8? s.toUTF8 = some s := by
  rw [String.fromUTF8?]
  exact dif_pos s.isValidUTF8

theorem fromUTF8?_eq_some_iff {bytes : ByteArray} {s : String} :
    String.fromUTF8? bytes = some s ↔ bytes = s.toUTF8 := by
  constructor
  · intro h
    rw [String.fromUTF8?] at h
    split at h
    · cases h
      rfl
    · cases h
  · rintro rfl
    exact fromUTF8?_toUTF8 s

end ClientAccess.Text
