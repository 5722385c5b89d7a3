import ClientAccess.Proofs.Store.Interruption
import ClientAccess.Proofs.Store.Reference

/-! Repetition. A change that is carried out again changes nothing: its keys have their values
already, and the session file is written again in the place where it was written before, or fails to
be written where it failed before. -/
namespace ClientAccess

namespace Disk

variable {d e : Disk} {place steps : List String} {path : String} {bytes : ByteArray}

theorem put_put (d : Disk) (place : List String) (node again : Node) :
    (d.put place node).put place again = d.put place again := by
  simp [put, unlink, List.filter_filter]

theorem unlink_put (d : Disk) (place : List String) (node : Node) :
    (d.put place node).unlink place = d.unlink place := by
  simp [put, unlink, List.filter_filter]

theorem unlink_eq_self (h : d.node? place = none) : d.unlink place = d := by
  have habsent : ∀ node ∈ d.nodes, node.1 ≠ place := by
    simpa [node?] using h
  have hkeep : d.nodes.filter (·.1 != place) = d.nodes := by
    rw [List.filter_eq_self]
    intro node hnode
    simpa using habsent node hnode
  rw [unlink, hkeep]

theorem isFolder_put_folder (d : Disk) (place : List String) :
    (d.put place .folder).isFolder place = true :=
  isFolder_iff.2 (.inr (by rw [node?_put, if_pos rfl]))

inductive Paved (d : Disk) : List String → List String → Prop where
  | done (place : List String) : Paved d place []
  | on {place next steps : List String} {step : String} (first : d.enter place step = some next)
    (folder : d.isFolder next = true) (more : Paved d next steps) : Paved d place (step :: steps)

theorem Paved.makeSteps (h : d.Paved place steps) : d.makeSteps place steps = (d, true) := by
  induction h with
  | done place => rfl
  | on first folder more ih => simp [Disk.makeSteps, first, folder, ih]

theorem Paved.mono (h : d.Paved place steps) (hmore : d.MoreFolders e) : e.Paved place steps := by
  induction h with
  | done place => exact .done place
  | on first folder more ih =>
    have hstart := hmore.folders _ (enter_cases first).1
    exact .on (enter_of_isFolder first hstart) (hmore.folders _ folder) ih

theorem makeSteps_cons_cases {step : String} {done : Bool}
    (h : d.makeSteps place (step :: steps) = (e, done)) :
    done = false ∧ e = d ∨ ∃ (next : List String) (made : Disk),
      e.enter place step = some next ∧ e.isFolder next = true ∧
        made.makeSteps next steps = (e, done) := by
  rw [Disk.makeSteps] at h
  split at h
  · cases h
    exact .inl ⟨rfl, rfl⟩
  · next next hfirst =>
    -- Directories are only ever added, so the step can be made again in the end.
    have hon (made : Disk) (hmade : d.Extends made) (hfolder : made.isFolder next = true)
        (hrest : made.makeSteps next steps = (e, done)) :
        e.enter place step = some next ∧ e.isFolder next = true := by
      have hmore : made.Extends e := by
        have hextends := extends_makeSteps made next steps
        rwa [hrest] at hextends
      have hstart := (hmade.trans hmore).folders place (enter_cases hfirst).1
      exact ⟨enter_of_isFolder hfirst hstart, hmore.folders next hfolder⟩
    split at h
    · next hfolder =>
      obtain ⟨hstep, hthere⟩ := hon d (.refl d) hfolder h
      exact .inr ⟨next, d, hstep, hthere, h⟩
    · split at h
      · cases h
        exact .inl ⟨rfl, rfl⟩
      · next hfree =>
        have hput : d.Extends (d.put next .folder) := extends_put_folder (by simpa using hfree)
        obtain ⟨hstep, hthere⟩ := hon _ hput (isFolder_put_folder d next) h
        exact .inr ⟨next, _, hstep, hthere, h⟩

theorem paved_of_makeSteps (h : d.makeSteps place steps = (e, true)) : e.Paved place steps := by
  induction steps generalizing d place with
  | nil => exact .done place
  | cons step steps ih =>
    rcases makeSteps_cons_cases h with ⟨hdone, -⟩ | ⟨next, made, hfirst, hfolder, hrest⟩
    · cases hdone
    · exact .on hfirst hfolder (ih hrest)

theorem makeSteps_failed (h : d.makeSteps place steps = (e, false)) :
    e.makeSteps place steps = (e, false) := by
  induction steps generalizing d place with
  | nil => cases h
  | cons step steps ih =>
    rcases makeSteps_cons_cases h with ⟨-, rfl⟩ | ⟨next, made, hfirst, hfolder, hrest⟩
    · exact h
    · simpa [Disk.makeSteps, hfirst, hfolder] using ih hrest

theorem origin_makeFolders {done : Bool} (h : d.makeFolders path = (e, done)) :
    e.origin path = d.origin path := by
  have hextends := extends_makeFolders d path
  rw [h] at hextends
  exact origin_eq hextends.toMoreFolders path

theorem makeFolders_failed (h : d.makeFolders path = (e, false)) :
    e.makeFolders path = (e, false) := by
  have horigin := origin_makeFolders h
  unfold makeFolders at h ⊢
  split at h
  · next hlookup =>
    rw [if_pos hlookup, horigin]
    exact makeSteps_failed h
  · next hblocked =>
    cases h
    rw [if_neg hblocked]

theorem makeFolders_made {k : Disk} (h : d.makeFolders path = (e, true)) (hmore : e.MoreFolders k) :
    k.makeFolders path = (k, true) := by
  have horigin := (origin_eq hmore path).trans (origin_makeFolders h)
  unfold makeFolders at h ⊢
  split at h
  · next hlookup =>
    rw [if_pos hlookup, horigin]
    exact ((paved_of_makeSteps h).mono hmore).makeSteps
  · cases h

theorem write_eq_false (h : d.write path bytes = (e, false)) : e = d := by
  unfold write at h
  split at h
  · exact (Prod.mk.inj h).1.symm
  · split at h
    · exact (Prod.mk.inj h).1.symm
    · cases h

theorem rename_eq_false {source target : String} (h : d.rename source target = (e, false)) :
    e = d := by
  unfold rename at h
  split at h
  · split at h
    · split at h
      · exact (Prod.mk.inj h).1.symm
      · cases h
    · exact (Prod.mk.inj h).1.symm
  · exact (Prod.mk.inj h).1.symm

theorem sameFolders_write (h : d.write path bytes = (e, true)) : d.SameFolders e := by
  obtain ⟨target, -, hfree, rfl⟩ := write_eq_true h
  exact sameFolders_put_file hfree bytes

theorem sameFolders_rename {source target : String} (h : d.rename source target = (e, true)) :
    d.SameFolders e := by
  obtain ⟨old, new, found, -, -, hnode, hfree, rfl⟩ := rename_eq_true h
  have hunlink := sameFolders_unlink hnode
  exact hunlink.trans (sameFolders_put_file ((hunlink.folders new).trans hfree) found)

theorem write_again (h : d.write path bytes = (e, true)) : e.write path bytes = (e, true) := by
  have hsame := sameFolders_write h
  obtain ⟨place, hplace, hfree, rfl⟩ := write_eq_true h
  have hplace' := (locate_congr hsame path).trans hplace
  have hfree' := (hsame.folders place).trans hfree
  simp [write, hplace', hfree', put_put]

theorem exists_beside {source target : String} {old new : List String}
    (hold : d.locate source = some old) (hnew : d.locate target = some new)
    (hfreeOld : d.isFolder old = false) (hfreeNew : d.isFolder new = false)
    (hgone : d.node? old = none) (hkept : d.put new (.file bytes) = d) :
    ∃ beside, d.write source bytes = (beside, true) ∧ beside.rename source target = (d, true) := by
  have hwrite : d.write source bytes = (d.put old (.file bytes), true) := by
    simp [write, hold, hfreeOld]
  have hsame := sameFolders_write hwrite
  have hold' := (locate_congr hsame source).trans hold
  have hnew' := (locate_congr hsame target).trans hnew
  have hfree : (d.put old (.file bytes)).isFolder new = false := (hsame.folders new).trans hfreeNew
  have hmoved : ((d.put old (.file bytes)).unlink old).put new (.file bytes) = d := by
    rw [unlink_put, unlink_eq_self hgone, hkept]
  refine ⟨_, hwrite, ?_⟩
  simp [rename, hold', hnew', node?_put, hfree, hmoved]

/-- A file that has been written beside another one and moved over it is where it was once this has
been done again. -/
theorem write_rename_again {k : Disk} {source target : String}
    (hwrite : d.write source bytes = (e, true)) (hrename : e.rename source target = (k, true))
    (hother : ∀ old new, e.locate source = some old → e.locate target = some new → new ≠ old) :
    ∃ beside, k.write source bytes = (beside, true) ∧ beside.rename source target = (k, true) := by
  have hsame := sameFolders_rename hrename
  have hread := read?_write hwrite
  obtain ⟨place, hplace, hfreePlace, -⟩ := write_eq_true hwrite
  obtain ⟨old, new, found, hold, hnew, hnode, hfreeNew, hk⟩ := rename_eq_true hrename
  have hfound : found = bytes := by
    rw [read?_eq, hold, Option.bind_some, fileAt, hnode] at hread
    exact Option.some.inj hread
  subst hfound
  have hfreeOld : e.isFolder old = false := by
    have hwritten := sameFolders_write hwrite
    have hthere : e.locate source = some place := (locate_congr hwritten source).trans hplace
    rw [Option.some.inj (hold.symm.trans hthere), hwritten.folders, hfreePlace]
  -- The source is gone after the move, so writing it again overwrites nothing.
  have hgone : k.node? old = none := by
    have hne : new ≠ old := hother old new hold hnew
    rw [hk, node?_put, if_neg (Ne.symm hne), node?_unlink, if_pos rfl]
  have hkept : k.put new (.file found) = k := by
    rw [hk, put_put]
  exact exists_beside ((locate_congr hsame source).trans hold)
    ((locate_congr hsame target).trans hnew) ((hsame.folders old).trans hfreeOld)
    ((hsame.folders new).trans hfreeNew) hgone hkept

end Disk

namespace Store

open Disk

theorem performAll_persistence {d made written renamed : Disk} {path : String}
    {entries : Entries String} {done : Bool} (hmade : d.makeFolders (parent path) = (made, true))
    (hwrite : made.write (temporary path) entries.toFileText.toUTF8 = (written, true))
    (hrename : written.rename (temporary path) path = (renamed, done)) :
    d.performAll (persistence path entries) = (renamed, done) := by
  simp only [persistence, performAll, perform, hmade, hwrite, hrename]
  cases done <;> rfl

theorem performAll_persistence_again (d : Disk) (path : String) (entries : Entries String) :
    (d.performAll (persistence path entries)).1.performAll (persistence path entries) =
      d.performAll (persistence path entries) := by
  cases hmade : d.makeFolders (parent path) with
  | mk made done =>
    cases done with
    | false => simp only [persistence, performAll, perform, hmade, makeFolders_failed hmade]
    | true =>
      cases hwrite : made.write (temporary path) entries.toFileText.toUTF8 with
      | mk written done =>
        cases done with
        | false =>
          have hsame := write_eq_false hwrite
          subst hsame
          have hmade' := makeFolders_made hmade (Extends.refl _).toMoreFolders
          simp only [persistence, performAll, perform, hmade, hmade', hwrite]
        | true =>
          -- Neither the file beside nor the move makes or removes a directory.
          have hmade' : written.makeFolders (parent path) = (written, true) :=
            makeFolders_made hmade (sameFolders_write hwrite).more
          cases hrename : written.rename (temporary path) path with
          | mk renamed done =>
            rw [performAll_persistence hmade hwrite hrename]
            cases done with
            | false =>
              have hsame := rename_eq_false hrename
              subst hsame
              exact performAll_persistence hmade' (write_again hwrite) hrename
            | true =>
              have hmade'' : renamed.makeFolders (parent path) = (renamed, true) :=
                makeFolders_made hmade' (sameFolders_rename hrename).more
              obtain ⟨beside, hwrite', hrename'⟩ :=
                write_rename_again hwrite hrename fun _ _ hold hnew => locate_temporary_ne hnew hold
              exact performAll_persistence hmade'' hwrite' hrename'

theorem performAll_operations_again (d : Disk) (kind : Kind) (entries : Entries String) :
    (d.performAll (operations kind entries)).1.performAll (operations kind entries) =
      d.performAll (operations kind entries) := by
  cases kind with
  | memory => rfl
  | single => rfl
  | file path => exact performAll_persistence_again d path entries

end Store

namespace Change

theorem update_update (change : Change) (map : String → Option String) :
    change.update (change.update map) = change.update map := by
  funext key
  cases change with
  | set k value => by_cases hkey : k = key <;> simp [update, hkey]
  | remove k => by_cases hkey : k = key <;> simp [update, hkey]
  | setAll pairs => cases hfound : Entries.find? key pairs.reverse <;> simp [update, hfound]
  | removeAll keys => by_cases hkey : key ∈ keys <;> simp [update, hkey]

end Change

namespace Store

theorem eq_of_parts {s t : Store} (hkind : s.kind = t.kind) (hentries : s.entries = t.entries)
    (hdisk : s.disk = t.disk) : s = t := by
  cases s
  cases t
  cases hkind
  cases hentries
  cases hdisk
  rfl

/-- A change carried out twice in a row is a change carried out once, in the map and on disk. -/
theorem apply_apply (s : Store) (change : Change) :
    (s.apply change).apply change = s.apply change := by
  have hmap : (s.entries.apply change).apply change = s.entries.apply change := by
    refine Entries.ext_get? fun key => ?_
    rw [Entries.get?_apply, Entries.get?_apply, Change.update_update]
  have hentries : ((s.apply change).apply change).entries = (s.apply change).entries := by
    rw [entries_apply, entries_apply, hmap]
  have hdisk : ((s.apply change).apply change).disk = (s.apply change).disk := by
    rw [disk_apply, entries_apply, hmap, disk_apply]
    exact congrArg Prod.fst (performAll_operations_again s.disk s.kind (s.entries.apply change))
  exact eq_of_parts rfl hentries hdisk

theorem applyAll_replicate (s : Store) (change : Change) (n : Nat) :
    s.applyAll (List.replicate (n + 1) change) = s.apply change := by
  induction n with
  | zero => rfl
  | succ n ih => rw [List.replicate_succ', applyAll_concat, ih, apply_apply]

end Store

end ClientAccess
