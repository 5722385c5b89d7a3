import ClientAccess.Proofs.Text.Utf8
import ClientAccess.Text.Percent

/-! Percent encoding and back. An escaped byte is read as that byte and an unreserved character as
itself, so decoding finds the bytes of the text again. Nothing but unreserved characters and
percent signs is written: no delimiter of a query is among them. What is decoded is told from the
bytes: escapes stand for bytes, and what is no escape for itself. -/
namespace ClientAccess.Text.Percent

theorem utf8EncodeChar_percent : String.utf8EncodeChar '%' = [0x25] := by decide

theorem utf8EncodeChar_hexDigit : ∀ n < 16,
    String.utf8EncodeChar (hexDigit n) = [(hexDigit n).toUInt8] := by decide

theorem hexValue_hexDigit : ∀ n < 16,
    hexValue (hexDigit n).toUInt8 = some (UInt8.ofNat n) := by decide

theorem isUnreserved_hexDigit : ∀ n < 16, isUnreserved (hexDigit n) = true := by decide

theorem digits_lt (b : UInt8) : b.toNat / 16 < 16 ∧ b.toNat % 16 < 16 := by
  have hbyte := b.toNat_lt
  omega

theorem unescape_cons_of_ne {b : UInt8} (h : b ≠ 0x25) (rest : List UInt8) :
    unescape (b :: rest) = b :: unescape rest := by
  rw [unescape]
  intro x y more hb
  exact absurd hb h

theorem unescape_escapeByte (b : UInt8) (rest : List UInt8) :
    unescape ((escapeByte b).flatMap String.utf8EncodeChar ++ rest) = b :: unescape rest := by
  obtain ⟨hhigh, hlow⟩ := digits_lt b
  have hbytes : (escapeByte b).flatMap String.utf8EncodeChar =
      [0x25, (hexDigit (b.toNat / 16)).toUInt8, (hexDigit (b.toNat % 16)).toUInt8] := by
    simp [escapeByte, utf8EncodeChar_percent, utf8EncodeChar_hexDigit _ hhigh,
      utf8EncodeChar_hexDigit _ hlow]
  have hvalue : UInt8.ofNat (b.toNat / 16) * 16 + UInt8.ofNat (b.toNat % 16) = b := by
    apply UInt8.toNat_inj.1
    simp only [UInt8.toNat_add, UInt8.toNat_mul, UInt8.toNat_ofNat', UInt8.reduceToNat]
    omega
  rw [hbytes]
  simp only [List.cons_append, List.nil_append, unescape, hexValue_hexDigit _ hhigh,
    hexValue_hexDigit _ hlow, hvalue]

theorem unescape_escapeBytes (bs rest : List UInt8) :
    unescape ((bs.flatMap escapeByte).flatMap String.utf8EncodeChar ++ rest) =
      bs ++ unescape rest := by
  induction bs with
  | nil => rfl
  | cons b bs ih =>
    rw [List.flatMap_cons, List.flatMap_append, List.append_assoc, unescape_escapeByte, ih,
      List.cons_append]

theorem bounds_of_isAlphanum {c : Char} (h : c.isAlphanum = true) :
    48 ≤ c.val.toNat ∧ c.val.toNat ≤ 122 := by
  have hclasses : (c.isUpper || c.isLower || c.isDigit) = true := h
  rw [Bool.or_eq_true, Bool.or_eq_true] at hclasses
  rcases hclasses with (hupper | hlower) | hdigit
  · have hrange : 'A'.val ≤ c.val ∧ c.val ≤ 'Z'.val := of_decide_eq_true hupper
    have hlow : 65 ≤ c.val.toNat := UInt32.le_iff_toNat_le.1 hrange.1
    have hhigh : c.val.toNat ≤ 90 := UInt32.le_iff_toNat_le.1 hrange.2
    omega
  · have hrange := Bool.and_eq_true_iff.1 hlower
    have hlow : 97 ≤ c.val.toNat := UInt32.le_iff_toNat_le.1 (of_decide_eq_true hrange.1)
    have hhigh : c.val.toNat ≤ 122 := UInt32.le_iff_toNat_le.1 (of_decide_eq_true hrange.2)
    omega
  · have hrange := Bool.and_eq_true_iff.1 hdigit
    have hlow : 48 ≤ c.val.toNat := UInt32.le_iff_toNat_le.1 (of_decide_eq_true hrange.1)
    have hhigh : c.val.toNat ≤ 57 := UInt32.le_iff_toNat_le.1 (of_decide_eq_true hrange.2)
    omega

theorem utf8EncodeChar_of_isUnreserved {c : Char} (h : isUnreserved c = true) :
    ∃ b, String.utf8EncodeChar c = [b] ∧ b ≠ 0x25 := by
  have hbounds : c.val.toNat ≤ 127 ∧ c.val.toNat ≠ 0x25 := by
    simp only [isUnreserved, Bool.or_eq_true, beq_iff_eq] at h
    rcases h with (((halnum | rfl) | rfl) | rfl) | rfl
    · have hrange := bounds_of_isAlphanum halnum
      omega
    all_goals decide
  have hsize : c.utf8Size = 1 := Char.utf8Size_eq_one_iff.2 (UInt32.le_iff_toNat_le.2 hbounds.1)
  refine ⟨c.val.toUInt8, String.utf8EncodeChar_eq_singleton hsize, ?_⟩
  intro he
  have hnat := congrArg UInt8.toNat he
  simp only [UInt32.toNat_toUInt8, UInt8.reduceToNat] at hnat
  omega

theorem unescape_encodeChar (c : Char) (rest : List UInt8) :
    unescape ((encodeChar c).flatMap String.utf8EncodeChar ++ rest) =
      String.utf8EncodeChar c ++ unescape rest := by
  by_cases hc : isUnreserved c = true
  · obtain ⟨b, hbyte, hne⟩ := utf8EncodeChar_of_isUnreserved hc
    simp [encodeChar, hc, hbyte, unescape_cons_of_ne hne]
  · rw [encodeChar, if_neg hc, unescape_escapeBytes]

theorem unescape_encode (cs : List Char) :
    unescape ((cs.flatMap encodeChar).flatMap String.utf8EncodeChar) =
      cs.flatMap String.utf8EncodeChar := by
  induction cs with
  | nil => rfl
  | cons c cs ih =>
    rw [List.flatMap_cons, List.flatMap_append, unescape_encodeChar, ih, List.flatMap_cons]

theorem decode?_encode (s : String) : decode? (encode s) = some s := by
  have hbytes : unescape (encode s).toUTF8.data.toList = s.toUTF8.data.toList := by
    have hplain := toList_toUTF8_ofList s.toList
    rw [String.ofList_toList] at hplain
    rw [encode, toList_toUTF8_ofList, unescape_encode, hplain]
  rw [decode?, hbytes, Array.toArray_toList]
  exact fromUTF8?_toUTF8 s

theorem mem_encode {s : String} {c : Char} (h : c ∈ (encode s).toList) :
    isUnreserved c = true ∨ c = '%' := by
  rw [encode, String.toList_ofList, List.mem_flatMap] at h
  obtain ⟨d, -, hc⟩ := h
  unfold encodeChar at hc
  split at hc
  · next hd =>
    have he : c = d := by simpa using hc
    exact .inl (he ▸ hd)
  · obtain ⟨b, -, hb⟩ := List.mem_flatMap.1 hc
    obtain ⟨hhigh, hlow⟩ := digits_lt b
    rcases List.mem_cons.1 hb with rfl | hb
    · exact .inr rfl
    · refine .inl ?_
      rcases List.mem_cons.1 hb with rfl | hb
      · exact isUnreserved_hexDigit _ hhigh
      · rw [List.mem_singleton.1 hb]
        exact isUnreserved_hexDigit _ hlow

theorem not_mem_encode {sep : Char} (h : isUnreserved sep = false) (hp : sep ≠ '%') (s : String) :
    sep ∉ (encode s).toList := by
  intro hmem
  rcases mem_encode hmem with hfree | hpercent
  · rw [h] at hfree
    cases hfree
  · exact hp hpercent

def BeginsDigits (bs : List UInt8) : Prop :=
  ∃ high low rest x y, bs = high :: low :: rest ∧ hexValue high = some x ∧ hexValue low = some y

/-- The bytes behind bytes with escapes. An escape stands for the byte that its digits name, and
every other byte for itself, a percent sign without two digits among them. -/
inductive Unescapes : List UInt8 → List UInt8 → Prop
  | nil : Unescapes [] []
  | escape {high low x y : UInt8} {rest bytes : List UInt8} (hx : hexValue high = some x)
    (hy : hexValue low = some y) (more : Unescapes rest bytes) :
    Unescapes (0x25 :: high :: low :: rest) ((x * 16 + y) :: bytes)
  | byte {b : UInt8} {rest bytes : List UInt8} (h : b = 0x25 → ¬ BeginsDigits rest)
    (more : Unescapes rest bytes) : Unescapes (b :: rest) (b :: bytes)

theorem unescape_cons_of_no_escape {b : UInt8} {rest : List UInt8}
    (h : b = 0x25 → ¬ BeginsDigits rest) : unescape (b :: rest) = b :: unescape rest := by
  by_cases hb : b = 0x25
  · subst hb
    match rest with
    | [] => rfl
    | [_] => rfl
    | high :: low :: rest =>
      rw [unescape]
      split
      · next x y hx hy => exact absurd ⟨high, low, rest, x, y, rfl, hx, hy⟩ (h rfl)
      · rfl
  · exact unescape_cons_of_ne hb rest

theorem unescapes_unescape (bs : List UInt8) : Unescapes bs (unescape bs) := by
  fun_induction unescape bs with
  | case1 high low rest x y hy hx ih => exact .escape hx hy ih
  | case2 high low rest hnone ih =>
    refine .byte ?_ ih
    rintro - ⟨_, _, _, x, y, he, hx, hy⟩
    cases he
    exact hnone x y hx hy
  | case3 b rest hshape ih =>
    refine .byte ?_ ih
    rintro hb ⟨high, low, after, x, y, he, -, -⟩
    exact hshape high low after hb he
  | case4 => exact .nil

theorem unescapes_iff {bs bytes : List UInt8} : Unescapes bs bytes ↔ unescape bs = bytes := by
  constructor
  · intro h
    induction h with
    | nil => rfl
    | escape hx hy more ih => simp only [unescape, hx, hy, ih]
    | byte h more ih => rw [unescape_cons_of_no_escape h, ih]
  · rintro rfl
    exact unescapes_unescape bs

def Decodes (s text : String) : Prop :=
  Unescapes s.toUTF8.data.toList text.toUTF8.data.toList

theorem decode?_eq_some_iff {s text : String} : decode? s = some text ↔ Decodes s text := by
  rw [decode?, fromUTF8?_eq_some_iff, Decodes, unescapes_iff]
  constructor
  · intro h
    rw [← h]
  · intro h
    rw [h]

end ClientAccess.Text.Percent
