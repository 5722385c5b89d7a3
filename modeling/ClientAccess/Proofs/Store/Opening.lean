import ClientAccess.Proofs.Json.Soundness
import ClientAccess.Proofs.Store.Persistence
import ClientAccess.Proofs.Store.Reference

/-! Opening a file of any bytes. They are the text of an object of texts, and then every key has the
value that stands last, or they count for nothing as a whole. Either way the disk stays as it is up
to the first change, which writes the file anew. -/
namespace ClientAccess

namespace Json

theorem Writes.brace_mem {text : String} {members : List (String × Json)}
    (h : Writes text (.obj members)) : '\x7b' ∈ text.toList := by
  rw [Writes, tokens, List.cons_append] at h
  generalize text.toList = cs at h ⊢
  cases h with
  | cons blank first rest =>
    obtain rfl := first.mark_eq
    simp

end Json

namespace Entries

open Json (Writes IsBlank textMembers)

variable {bytes : ByteArray} {pairs : List (String × String)}

/-- Bytes that are UTF-8, of a text which writes an object with these texts as its members. -/
def HoldsTexts (bytes : ByteArray) (pairs : List (String × String)) : Prop :=
  ∃ text : String, bytes = text.toUTF8 ∧ Writes text (.obj (textMembers pairs))

/-- Bytes that went wrong in one of the usual ways. A cut or a tail of blanks does no damage. -/
inductive IsDamaged : ByteArray → Prop
  | notUtf8 {bytes : ByteArray} (unreadable : ∀ text : String, bytes ≠ text.toUTF8) :
    IsDamaged bytes
  | blank {text : String} (blank : ∀ c ∈ text.toList, Text.isBlank c = true) :
    IsDamaged text.toUTF8
  | truncated {front rest : String} {members : List (String × Json)}
    (whole : Writes (front ++ rest) (.obj members)) (cut : ¬ IsBlank rest.toList) :
    IsDamaged front.toUTF8
  | trailing {text rest : String} {members : List (String × Json)}
    (whole : Writes text (.obj members)) (more : ¬ IsBlank rest.toList) :
    IsDamaged (text ++ rest).toUTF8
  | notText {text key : String} {members : List (String × Json)} {v : Json}
    (whole : Writes text (.obj members)) (member : (key, v) ∈ members)
    (other : ∀ s, v ≠ .str s) : IsDamaged text.toUTF8
  | notObject {text : String} {v : Json} (whole : Writes text v)
    (other : ∀ members, v ≠ .obj members) : IsDamaged text.toUTF8

theorem holdsTexts_toUTF8_iff {text : String} :
    HoldsTexts text.toUTF8 pairs ↔ Writes text (.obj (textMembers pairs)) := by
  constructor
  · rintro ⟨text', hbytes, hwrites⟩
    rwa [Text.toUTF8_inj.1 hbytes]
  · exact fun h => ⟨text, rfl, h⟩

theorem IsDamaged.not_holdsTexts (h : IsDamaged bytes) : ¬ HoldsTexts bytes pairs := by
  cases h with
  | notUtf8 unreadable =>
    rintro ⟨text, hbytes, -⟩
    exact unreadable text hbytes
  | blank blank =>
    rw [holdsTexts_toUTF8_iff]
    intro hwrites
    exact absurd (blank _ hwrites.brace_mem) (by decide)
  -- After a cut or with a tail one object would begin the text of the other, and blanks end it.
  | truncated whole cut =>
    rw [holdsTexts_toUTF8_iff]
    exact fun hwrites => cut (Json.isBlank_of_writes_append hwrites whole)
  | trailing whole more =>
    rw [holdsTexts_toUTF8_iff]
    exact fun hwrites => more (Json.isBlank_of_writes_append whole hwrites)
  | notText whole member other =>
    rw [holdsTexts_toUTF8_iff]
    intro hwrites
    cases whole.unique hwrites
    obtain ⟨p, -, hp⟩ := List.mem_map.1 member
    cases hp
    exact other _ rfl
  | notObject whole other =>
    rw [holdsTexts_toUTF8_iff]
    exact fun hwrites => other _ (whole.unique hwrites)

theorem textMembers?_eq_some_iff {members : List (String × Json)} :
    textMembers? members = some pairs ↔ members = textMembers pairs := by
  constructor
  · intro h
    fun_induction textMembers? members generalizing pairs with
    | case1 =>
      cases h
      rfl
    | case2 key value rest ih =>
      obtain ⟨tail, htail, rfl⟩ := Option.map_eq_some_iff.1 h
      rw [ih htail]
      rfl
    | case3 => cases h
  · rintro rfl
    exact textMembers?_textMembers pairs

theorem ofFileText?_eq_some_iff {text : String} {e : Entries String} :
    ofFileText? text = some e ↔
      ∃ pairs, Writes text (.obj (textMembers pairs)) ∧ e = ofList pairs := by
  rw [ofFileText?]
  constructor
  · intro h
    split at h
    · next members hread =>
      obtain ⟨pairs, hpairs, rfl⟩ := Option.map_eq_some_iff.1 h
      obtain rfl := textMembers?_eq_some_iff.1 hpairs
      exact ⟨pairs, (Json.readAsWritten_eq_ok_iff.1 hread).1, rfl⟩
    · cases h
  · rintro ⟨pairs, hwrites, rfl⟩
    have hdepth : (Json.obj (textMembers pairs)).depth ≤ Json.depthLimit :=
      Nat.le_trans (Json.depth_textMembers pairs) (by decide)
    rw [Json.readAsWritten_of_writes hwrites hdepth]
    simp only [textMembers?_textMembers, Option.map_some]

theorem ofFileBytes_of_holdsTexts (h : HoldsTexts bytes pairs) :
    ofFileBytes bytes = ofList pairs := by
  obtain ⟨text, rfl, hwrites⟩ := h
  rw [ofFileBytes, Text.fromUTF8?_toUTF8, Option.bind_some,
    ofFileText?_eq_some_iff.2 ⟨pairs, hwrites, rfl⟩, Option.getD_some]

theorem ofFileBytes_eq_empty (h : ∀ pairs, ¬ HoldsTexts bytes pairs) :
    ofFileBytes bytes = empty := by
  rw [ofFileBytes]
  cases he : (String.fromUTF8? bytes).bind ofFileText? with
  | none => rfl
  | some e =>
    obtain ⟨text, htext, hfile⟩ := Option.bind_eq_some_iff.1 he
    obtain ⟨pairs, hwrites, -⟩ := ofFileText?_eq_some_iff.1 hfile
    exact absurd ⟨text, Text.fromUTF8?_eq_some_iff.1 htext, hwrites⟩ (h pairs)

end Entries

namespace Store

variable {disk : Disk} {path : String}

def serve (s : Store) : Request → Store
  | .get _ => s
  | .change change => s.apply change

def serveAll (s : Store) (requests : List Request) : Store := requests.foldl serve s

theorem serveAll_gets (s : Store) (keys : List String) : s.serveAll (keys.map .get) = s := by
  induction keys generalizing s with
  | nil => rfl
  | cons key keys ih => exact ih s

theorem serveAll_change (s : Store) (change : Change) (before after : List String) :
    s.serveAll (before.map .get ++ .change change :: after.map .get) = s.apply change := by
  have happend : s.serveAll (before.map .get ++ .change change :: after.map .get) =
      ((s.serveAll (before.map .get)).apply change).serveAll (after.map .get) :=
    List.foldl_append
  rw [happend, serveAll_gets, serveAll_gets]

theorem load_of_holdsTexts {bytes : ByteArray} {pairs : List (String × String)}
    (hread : disk.read? path = some bytes) (h : Entries.HoldsTexts bytes pairs) :
    load disk path = .ofList pairs := by
  rw [load, hread, Option.map_some, Option.getD_some, Entries.ofFileBytes_of_holdsTexts h]

theorem load_eq_empty
    (h : ∀ bytes pairs, disk.read? path = some bytes → ¬ Entries.HoldsTexts bytes pairs) :
    load disk path = .empty := by
  rw [load]
  cases hread : disk.read? path with
  | none => rfl
  | some bytes => exact Entries.ofFileBytes_eq_empty fun pairs => h bytes pairs hread

/-- A store opened on a file, whatever is at its path. If the bytes hold texts, each key has the one
that stands last for it. Otherwise the store is empty: so if the path leads nowhere, to nothing or
to a directory, and if the bytes are damaged. Opening and any number of questions leave the disk as
it is. After one change that could be written, among any questions, a store opened anew answers as
this one did, with the change made. -/
theorem openFile_all_or_nothing (disk : Disk) (path : String) :
    let s := openFile disk path
    (∀ bytes pairs, disk.read? path = some bytes → Entries.HoldsTexts bytes pairs →
      ∀ key, s.get? key = Entries.find? key pairs.reverse) ∧
    ((∀ bytes pairs, disk.read? path = some bytes → ¬ Entries.HoldsTexts bytes pairs) →
      s.entries = .empty) ∧
    ((∀ place, disk.locate path = some place →
      disk.node? place = none ∨ disk.node? place = some .folder) → s.entries = .empty) ∧
    (∀ bytes, disk.read? path = some bytes → Entries.IsDamaged bytes → s.entries = .empty) ∧
    (∀ keys : List String, (s.serveAll (keys.map .get)).disk = disk) ∧
    ∀ (before after : List String) (change : Change), s.saves change = true →
      let t := s.serveAll (before.map .get ++ .change change :: after.map .get)
      (openFile t.disk path).get? = change.update s.get? := by
  intro s
  refine ⟨?_, load_eq_empty, ?_, ?_, ?_, ?_⟩
  · intro bytes pairs hread hholds key
    have hload : s.entries = .ofList pairs := load_of_holdsTexts hread hholds
    rw [get?, hload, Entries.get?_ofList]
  · intro hplace
    refine load_eq_empty fun bytes pairs hread => ?_
    rw [Disk.read?_eq_none hplace] at hread
    cases hread
  · intro bytes hread hdamaged
    refine load_eq_empty fun bytes' pairs hread' => ?_
    rw [hread] at hread'
    cases hread'
    exact hdamaged.not_holdsTexts
  · intro keys
    rw [serveAll_gets]
    rfl
  · intro before after change hsaves t
    have ht : t = s.apply change := serveAll_change s change before after
    have hload : load t.disk path = (s.apply change).entries := by
      rw [ht]
      exact load_eq (read?_apply rfl hsaves)
    calc (load t.disk path).get?
      _ = (s.entries.apply change).get? := by rw [hload, entries_apply]
      _ = change.update s.get? := Entries.get?_apply s.entries change

def repeatedText : String := "\x7b\"a\":\"1\",\"b\":\"\",\"a\":\"2\"\x7d"

def mixedText : String := "\x7b\"a\":\"1\", \"b\":2\x7d"

def twoFiles : Disk where
  nodes := [(["work", "repeated"], .file repeatedText.toUTF8),
    (["work", "mixed"], .file mixedText.toUTF8)]
  working := ["work"]

theorem mixed_file_recovers :
    (openFile twoFiles "repeated").get? "a" = some "2" ∧
    (openFile twoFiles "/work/mixed").entries = .empty ∧
    (openFile twoFiles ".").entries = .empty ∧
    (openFile twoFiles "nowhere/mixed").entries = .empty ∧
    let s := (openFile twoFiles "/work/mixed").serveAll [.get "a", .change (.set "c" "3"), .get "b"]
    (openFile s.disk "/work/mixed").get? = (Change.set "c" "3").update fun _ => none := by
  have hrepeated : Entries.HoldsTexts repeatedText.toUTF8 [("a", "1"), ("b", ""), ("a", "2")] :=
    ⟨repeatedText, rfl, Json.writes_of_readAsWritten (show Json.readAsWritten 1 _ = _ from rfl)⟩
  have hmixed : Entries.IsDamaged mixedText.toUTF8 := by
    have hwrites : Json.Writes mixedText (.obj [("a", .str "1"), ("b", .int 2)]) :=
      Json.writes_of_readAsWritten (show Json.readAsWritten 1 _ = _ from rfl)
    exact .notText hwrites (List.mem_cons_of_mem _ (List.mem_singleton_self _)) (by simp)
  obtain ⟨hlast, -⟩ := openFile_all_or_nothing twoFiles "repeated"
  obtain ⟨-, -, -, hdamaged, -, hchange⟩ := openFile_all_or_nothing twoFiles "/work/mixed"
  obtain ⟨-, -, hfolder, -⟩ := openFile_all_or_nothing twoFiles "."
  obtain ⟨-, hnothing, -⟩ := openFile_all_or_nothing twoFiles "nowhere/mixed"
  have hempty : (openFile twoFiles "/work/mixed").entries = .empty := hdamaged _ rfl hmixed
  refine ⟨hlast _ _ rfl hrepeated "a", hempty, hfolder ?_, hnothing ?_, ?_⟩
  · intro place hplace
    cases hplace
    exact .inl rfl
  · intro bytes pairs hread
    cases hread
  · have hnone : (openFile twoFiles "/work/mixed").get? = fun _ => none := by
      funext key
      rw [get?, hempty, Entries.get?_empty]
    rw [← hnone]
    exact hchange ["a"] ["b"] (.set "c" "3") (by decide)

end Store

end ClientAccess
