import ClientAccess.Proofs.Disk
import ClientAccess.Proofs.Session.Change
import ClientAccess.Proofs.Store.FileText

/-! Session files. After a change that could be written the file holds the text of the map and
nothing else counts for it, so a store opened on the file has the same map and the same session. -/
namespace ClientAccess

namespace Store

variable {s : Store} {disk after : Disk} {path : String} {entries : Entries String}

def applyAll (s : Store) (changes : List Change) : Store := changes.foldl apply s

theorem applyAll_concat (s : Store) (changes : List Change) (last : Change) :
    s.applyAll (changes ++ [last]) = (s.applyAll changes).apply last := by
  simp [applyAll, List.foldl_append]

theorem kind_applyAll (s : Store) (changes : List Change) :
    (s.applyAll changes).kind = s.kind := by
  induction changes generalizing s with
  | nil => rfl
  | cons change changes ih => exact ih (s.apply change)

/-- Whether the file of a store can be written after a change. -/
def saves (s : Store) (change : Change) : Bool :=
  (s.disk.performAll (operations s.kind (s.entries.apply change))).2

theorem read?_of_persistence (h : disk.performAll (persistence path entries) = (after, true)) :
    after.read? path = some entries.toFileText.toUTF8 := by
  obtain ⟨made, -, hmade⟩ := Disk.performAll_cons_eq_true h
  obtain ⟨written, hwrite, hwritten⟩ := Disk.performAll_cons_eq_true hmade
  obtain ⟨renamed, hrename, hrenamed⟩ := Disk.performAll_cons_eq_true hwritten
  cases hrenamed
  rw [Disk.read?_rename hrename, Disk.read?_write hwrite]

theorem disk_apply (s : Store) (change : Change) :
    (s.apply change).disk =
      (s.disk.performAll (operations s.kind (s.entries.apply change))).1 := by
  rw [← entries_apply]
  rfl

theorem read?_apply (hkind : s.kind = .file path) {change : Change} (h : s.saves change = true) :
    (s.apply change).disk.read? path =
      some (s.apply change).entries.toFileText.toUTF8 := by
  rw [saves, hkind, operations] at h
  rw [disk_apply, hkind, operations, entries_apply]
  cases hrun : s.disk.performAll (persistence path (s.entries.apply change)) with
  | mk after done =>
    rw [hrun] at h
    cases h
    exact read?_of_persistence hrun

theorem read?_applyAll (disk : Disk) (path : String) {changes : List Change} {last : Change}
    (h : ((openFile disk path).applyAll changes).saves last = true) :
    ((openFile disk path).applyAll (changes ++ [last])).disk.read? path =
      some ((openFile disk path).applyAll (changes ++ [last])).entries.toFileText.toUTF8 := by
  rw [applyAll_concat]
  exact read?_apply (kind_applyAll _ _) h

theorem load_eq (h : disk.read? path = some entries.toFileText.toUTF8) :
    load disk path = entries := by
  rw [load, h, Option.map_some, Option.getD_some, Entries.ofFileBytes_toFileText]

end Store

theorem Session.snapshot_congr {s t : Store} (h : s.entries = t.entries) :
    Session.snapshot s = Session.snapshot t := by
  simp only [snapshot, token?, user?, Store.get?, h]

namespace Store

/-- A store is opened on a file, whatever the file holds and even if there is none, and changed any
number of times. If the last change could be written, the bytes of the file are the indented text of
the map, and a store opened on the file anew has this map and hence this session. The bytes tell
nothing but the map: any other store with a file, after changes of its own, has the same bytes there
exactly if it has the same value under every key. -/
theorem file_holds_map (disk : Disk) (path : String) (changes : List Change) (last : Change)
    (hsaved : ((openFile disk path).applyAll changes).saves last = true) :
    let s := (openFile disk path).applyAll (changes ++ [last])
    s.disk.read? path =
      some (Json.obj (s.entries.items.map fun p => (p.1, .str p.2))).pretty.toUTF8 ∧
    (openFile s.disk path).entries = s.entries ∧
    Session.snapshot (openFile s.disk path) = Session.snapshot s ∧
    ∀ (disk' : Disk) (path' : String) (changes' : List Change) (last' : Change),
      ((openFile disk' path').applyAll changes').saves last' = true →
        let t := (openFile disk' path').applyAll (changes' ++ [last'])
        t.disk.read? path' = s.disk.read? path ↔ ∀ key, t.get? key = s.get? key := by
  intro s
  have hread : s.disk.read? path = some s.entries.toFileText.toUTF8 :=
    read?_applyAll disk path hsaved
  refine ⟨hread, load_eq hread, Session.snapshot_congr (load_eq hread), ?_⟩
  intro disk' path' changes' last' hsaved' t
  have hread' : t.disk.read? path' = some t.entries.toFileText.toUTF8 :=
    read?_applyAll disk' path' hsaved'
  rw [hread, hread', Option.some.injEq, Entries.toFileText_toUTF8_inj]
  constructor
  · intro h key
    rw [get?, get?, h]
  · exact Entries.ext_get?

def awkwardChanges : List Change :=
  [.setAll [], .setAll [("", "\"\\\n\x01"), ("é", ""), ("", "last")], .remove "missing"]

theorem file_holds_awkward_map :
    ((openFile .empty "/srv/b/session.json").applyAll awkwardChanges).saves (.set "\t" "x") = true ∧
    (openFile ((openFile .empty "/srv/b/session.json").applyAll
      (awkwardChanges ++ [.set "\t" "x"])).disk "/srv/b/session.json").entries.items =
        [("", "last"), ("\t", "x"), ("é", "")] := by
  have hsaved : ((openFile .empty "/srv/b/session.json").applyAll awkwardChanges).saves
      (.set "\t" "x") = true := by decide
  obtain ⟨-, hsame, -⟩ :=
    file_holds_map .empty "/srv/b/session.json" awkwardChanges (.set "\t" "x") hsaved
  refine ⟨hsaved, ?_⟩
  rw [hsame]
  rfl

end Store

end ClientAccess
