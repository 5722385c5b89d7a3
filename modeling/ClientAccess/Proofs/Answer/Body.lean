import ClientAccess.Answer
import ClientAccess.Proofs.Json.RoundTrip
import ClientAccess.Proofs.Json.Soundness
import ClientAccess.Proofs.Text.Utf8

/-! Bodies of answers. Blank bytes are no body, a text that writes a value is this value, and every
other text is itself. A text of blanks writes nothing, so the test for blanks, which comes first,
keeps no value back; the form feed passes this test and is no blank of JSON. -/
namespace ClientAccess

def asciiBlanks : List Char := [' ', '\t', '\n', '\x0c', '\r']

def IsAsciiBlank (bytes : ByteArray) : Prop :=
  ∀ b ∈ bytes.data.toList, b ∈ [0x20, 0x09, 0x0A, 0x0C, 0x0D]

instance (bytes : ByteArray) : Decidable (IsAsciiBlank bytes) :=
  List.decidableBAll _ bytes.data.toList

theorem all_isBlankByte_iff (bytes : ByteArray) :
    bytes.data.toList.all isBlankByte = true ↔ IsAsciiBlank bytes := by
  have hbyte (b : UInt8) : isBlankByte b = true ↔ b ∈ [0x20, 0x09, 0x0A, 0x0C, 0x0D] := by
    simp [isBlankByte, or_assoc]
  simp only [List.all_eq_true, IsAsciiBlank, hbyte]

theorem exists_asciiBlank (b : UInt8) (h : b ∈ [0x20, 0x09, 0x0A, 0x0C, 0x0D]) :
    ∃ c ∈ asciiBlanks, String.utf8EncodeChar c = [b] := by
  have hbytes : asciiBlanks.map String.utf8EncodeChar =
      [0x20, 0x09, 0x0A, 0x0C, 0x0D].map fun b => [b] := rfl
  have hb : [b] ∈ asciiBlanks.map String.utf8EncodeChar := by
    rw [hbytes]
    exact List.mem_map_of_mem h
  exact List.mem_map.1 hb

theorem exists_asciiBlanks : ∀ bs : List UInt8,
    (∀ b ∈ bs, b ∈ [0x20, 0x09, 0x0A, 0x0C, 0x0D]) →
      ∃ cs : List Char, cs.flatMap String.utf8EncodeChar = bs ∧ ∀ c ∈ cs, c ∈ asciiBlanks
  | [], _ => ⟨[], rfl, List.forall_mem_nil _⟩
  | b :: bs, h => by
    obtain ⟨hb, hrest⟩ := List.forall_mem_cons.1 h
    obtain ⟨c, hc, hencode⟩ := exists_asciiBlank b hb
    obtain ⟨cs, hcs, hblank⟩ := exists_asciiBlanks bs hrest
    refine ⟨c :: cs, ?_, List.forall_mem_cons.2 ⟨hc, hblank⟩⟩
    rw [List.flatMap_cons, hencode, hcs, List.singleton_append]

theorem IsAsciiBlank.toList {text : String} (h : IsAsciiBlank text.toUTF8) :
    ∀ c ∈ text.toList, c ∈ asciiBlanks := by
  obtain ⟨cs, hcs, hblank⟩ := exists_asciiBlanks _ h
  have htext : String.ofList cs = text := by
    rw [← Text.toUTF8_inj]
    refine ByteArray.ext (Array.ext' ?_)
    rw [Text.toList_toUTF8_ofList, hcs]
  rwa [← htext, String.toList_ofList]

namespace Json

variable {limit : Nat} {c : Char} {text : String} {v : Json}

theorem not_beginValue {stack : List Frame} {n : Machine} (hc : c ∈ asciiBlanks) :
    ¬ BeginValue limit stack c n := by
  have hnumeral : asciiBlanks.all (fun c => (Numeral.begin? c).isNone) = true := by decide
  intro h
  cases h with
  | numeral begins =>
    have hnone := List.all_eq_true.1 hnumeral c hc
    simp [begins] at hnone
  | _ => exact absurd hc (by decide)

theorem eq_initial_of_moves {n : Machine} (hc : c ∈ asciiBlanks)
    (h : Moves limit .initial c n) : n = .initial := by
  cases h with
  | blank => rfl
  | value begins => exact absurd begins (not_beginValue hc)

theorem not_writes_of_blank (h : ∀ c ∈ text.toList, c ∈ asciiBlanks) : ¬ Writes text v := by
  intro hwrites
  have hread : readAsWritten v.depth text = .ok v := readAsWritten_of_writes hwrites (Nat.le_refl _)
  obtain ⟨m, hm, hfinish⟩ := Machine.exists_finish
    (fun m cs => (∀ c ∈ cs, c ∈ asciiBlanks) → m = .initial)
    (fun hm hmoves hcs => by
      obtain ⟨hfront, hlast⟩ := List.forall_mem_append.1 hcs
      obtain rfl := hm hfront
      exact eq_initial_of_moves (hlast _ (List.mem_singleton_self _)) hmoves)
    [] (fun _ => rfl) hread
  obtain rfl := hm h
  cases hfinish

theorem read_of_writes (h : Writes text v) (hdepth : v.depth ≤ depthLimit) :
    read text = .ok v.normal := by
  rw [read, readAsWritten_of_writes h hdepth]
  rfl

theorem exists_read_eq_error (h : ¬ ∃ v, Writes text v ∧ v.depth ≤ depthLimit) :
    ∃ fault, read text = .error fault := by
  rw [read]
  cases hread : readAsWritten depthLimit text with
  | error fault => exact ⟨fault, rfl⟩
  | ok v => exact absurd ⟨v, readAsWritten_eq_ok_iff.1 hread⟩ h

theorem Writes.surround {front back : List Char} (h : Writes text v) (hfront : IsBlank front)
    (hback : IsBlank back) : Writes (String.ofList front ++ text ++ String.ofList back) v := by
  have hspells : Spells (front ++ text.toList ++ back) (v.tokens ++ []) :=
    (Spells.blank_left hfront h).append (.nil hback)
  rw [List.append_nil] at hspells
  simpa [Writes] using hspells

end Json

theorem decodeBody_eq_none_iff (bytes : ByteArray) :
    decodeBody bytes = none ↔ IsAsciiBlank bytes := by
  rw [← all_isBlankByte_iff, decodeBody]
  split
  · next hblank => simp [hblank]
  · next hbytes =>
    refine iff_of_false ?_ hbytes
    split
    · simp
    · split <;> simp

theorem decodeBody_of_read {text : String} {v : Json} (h : ¬ IsAsciiBlank text.toUTF8)
    (hread : Json.read text = .ok v) : decodeBody text.toUTF8 = some v := by
  rw [decodeBody, if_neg (mt (all_isBlankByte_iff _).1 h), Text.fromUTF8?_toUTF8]
  simp only [hread]

theorem decodeBody_of_fault {text : String} {fault : Json.Fault}
    (h : ¬ IsAsciiBlank text.toUTF8) (hread : Json.read text = .error fault) :
    decodeBody text.toUTF8 = some (.str text) := by
  rw [decodeBody, if_neg (mt (all_isBlankByte_iff _).1 h), Text.fromUTF8?_toUTF8]
  simp only [hread]

theorem decodeBody_of_writes {text : String} {v : Json} (h : Json.Writes text v)
    (hdepth : v.depth ≤ Json.depthLimit) : decodeBody text.toUTF8 = some v.normal := by
  have hbytes : ¬ IsAsciiBlank text.toUTF8 := fun hblank =>
    Json.not_writes_of_blank hblank.toList h
  exact decodeBody_of_read hbytes (Json.read_of_writes h hdepth)

/-- There is no body exactly if every byte is a blank of ASCII. A value of whole numbers with at
most 127 containers inside one another is got back from its text on one line, whatever blanks of
JSON are around it; so a text comes without its quotes, and `null` is a value. A text that is not
blank and writes no such value is the body as it stands, the blanks at its ends included. -/
theorem decodeBody_reads :
    (∀ bytes, decodeBody bytes = none ↔ IsAsciiBlank bytes) ∧
    (∀ (v : Json) (front back : List Char), v.IsPlain 127 → Json.IsBlank front →
      Json.IsBlank back →
        decodeBody (String.ofList front ++ v.compact ++ String.ofList back).toUTF8 = some v) ∧
    ∀ text : String, ¬ IsAsciiBlank text.toUTF8 →
      (¬ ∃ v, Json.Writes text v ∧ v.depth ≤ 127) → decodeBody text.toUTF8 = some (.str text) := by
  refine ⟨decodeBody_eq_none_iff, ?_, ?_⟩
  · intro v front back hplain hfront hback
    have hwrites := (Json.writes_compact hplain.whole).surround hfront hback
    rw [decodeBody_of_writes hwrites hplain.shallow, hplain.normal]
  · intro text hbytes hnone
    obtain ⟨fault, hfault⟩ := Json.exists_read_eq_error hnone
    exact decodeBody_of_fault hbytes hfault

theorem form_feed_kept :
    decodeBody (String.ofList [] ++ (Json.str "\x7b\x7d").compact ++ String.ofList ['\n']).toUTF8 =
      some (.str "\x7b\x7d") ∧
    decodeBody (String.ofList [' ', '\t'] ++ Json.null.compact ++ String.ofList []).toUTF8 =
      some .null ∧
    decodeBody "\x0cnull\n".toUTF8 = some (.str "\x0cnull\n") ∧
    decodeBody "\x0c\n".toUTF8 = none := by
  obtain ⟨hnone, hvalue, htext⟩ := decodeBody_reads
  have hplain : Json.null.IsPlain 127 := ⟨rfl, rfl, by decide⟩
  refine ⟨?_, ?_, ?_, ?_⟩
  · exact hvalue _ [] ['\n'] (.str 127 "\x7b\x7d") (by decide) (by decide)
  · exact hvalue _ [' ', '\t'] [] hplain (by decide) (by decide)
  · refine htext _ (mt (hnone _).2 (by decide)) ?_
    rintro ⟨v, hv⟩
    cases Json.readAsWritten_eq_ok_iff.2 hv
  · exact (hnone _).2 (by decide)

end ClientAccess
