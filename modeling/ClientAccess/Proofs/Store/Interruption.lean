import ClientAccess.Proofs.Store.Persistence
import ClientAccess.Proofs.Text.Split

/-! Interruptions. Operations may stop at any point, because one of them fails or because the
program does, and the one at hand may have been carried out in part. Until the last step of writing
a session file only directories and the file beside it are touched, so whoever opens the file then
finds what it held; after the last step it holds the new map. -/
namespace ClientAccess

namespace Disk

variable {d e : Disk} {op : Operation} {ops left : List Operation} {path : String}
  {place other : List String}

/-- What an operation that has not come to its end may leave: some of the directories, counted from
the outside, or a file with any bytes at all. A file is renamed at once or not at all. -/
inductive Partly (d : Disk) : Operation → Disk → Prop where
  | nothing (op : Operation) : Partly d op d
  | folders {path : String} {front : List String}
    (lookup : isPath path = true) (first : front <+: steps path) :
    Partly d (.makeFolders path) (d.makeSteps (d.origin path) front).1
  | torn {path : String} {place : List String} {bytes : ByteArray} (found : ByteArray)
    (leads : d.locate path = some place) (free : d.isFolder place = false) :
    Partly d (.write path bytes) (d.put place (.file found))

/-- Operations come to a stop; those that are left have not come to their end. -/
inductive Stops : Disk → List Operation → Disk → List Operation → Prop where
  | done (d : Disk) : Stops d [] d []
  | amid {d e : Disk} {op : Operation} (part : d.Partly op e) (ops : List Operation) :
    Stops d (op :: ops) e (op :: ops)
  | on {d next e : Disk} {op : Operation} {ops left : List Operation}
    (first : d.perform op = (next, true)) (more : Stops next ops e left) :
    Stops d (op :: ops) e left

theorem partly_of_failed (h : d.perform op = (e, false)) : d.Partly op e := by
  cases op with
  | makeFolders path =>
    simp only [perform, makeFolders] at h
    split at h
    · next hlookup =>
      have he : e = (d.makeSteps (d.origin path) (steps path)).1 := by rw [h]
      rw [he]
      exact .folders hlookup (List.prefix_refl _)
    · cases h
      exact .nothing _
  | write path bytes =>
    simp only [perform, write] at h
    split at h
    · cases h
      exact .nothing _
    · split at h
      · cases h
        exact .nothing _
      · cases h
  | rename source target =>
    simp only [perform, rename] at h
    split at h
    · split at h
      · split at h
        · cases h
          exact .nothing _
        · cases h
      · cases h
        exact .nothing _
    · cases h
      exact .nothing _

theorem stops_performAll (d : Disk) (ops : List Operation) :
    ∃ left, Stops d ops (d.performAll ops).1 left := by
  induction ops generalizing d with
  | nil => exact ⟨[], .done d⟩
  | cons op ops ih =>
    rw [performAll]
    cases hfirst : d.perform op with
    | mk next done =>
      cases done with
      | true =>
        obtain ⟨left, hmore⟩ := ih next
        exact ⟨left, .on hfirst hmore⟩
      | false => exact ⟨op :: ops, .amid (partly_of_failed hfirst) ops⟩

theorem performAll_of_stops (h : Stops d ops e []) : d.performAll ops = (e, true) := by
  induction ops generalizing d with
  | nil =>
    cases h
    rfl
  | cons op ops ih =>
    cases h with
    | on first more =>
      rw [performAll, first]
      exact ih more

theorem IsTree.partly (h : d.IsTree) (hpart : d.Partly op e) : e.IsTree := by
  cases hpart with
  | nothing => exact h
  | @folders path front => exact h.makeSteps (d.origin path) front
  | torn found leads free => exact h.put_file leads free found

/-- What is left when operations come to a stop is a tree again. -/
theorem IsTree.stops (h : d.IsTree) (hstop : Stops d ops e left) : e.IsTree := by
  induction hstop with
  | done => exact h
  | amid part => exact h.partly part
  | on first _ ih => exact ih (h.perform first)

theorem Partly.extends_makeFolders (h : d.Partly (.makeFolders path) e) : d.Extends e := by
  cases h with
  | nothing => exact .refl d
  | folders => exact extends_makeSteps d _ _

end Disk

namespace Store

variable {d e : Disk} {path : String} {entries : Entries String} {place other : List String}
  {left : List Disk.Operation}

theorem steps_temporary (path : String) :
    ∃ front last, Disk.steps path = front ++ [String.ofList last] ∧
      Disk.steps (temporary path) = front ++ [String.ofList (last ++ ['.', 't', 'm', 'p'])] := by
  have hslash : '/' ∉ ".tmp".toList := by decide
  obtain ⟨front, last, hpath, htmp⟩ := Text.splitOn_append hslash path.toList
  have happend : (temporary path).toList = path.toList ++ ".tmp".toList := by
    rw [temporary, String.toList_append]
  refine ⟨front.map String.ofList, last, ?_, ?_⟩
  · rw [Disk.steps, hpath, List.map_append, List.map_singleton]
  · rw [Disk.steps, happend, htmp, List.map_append, List.map_singleton]
    rfl

theorem origin_temporary (d : Disk) (hpath : path ≠ "") :
    d.origin (temporary path) = d.origin path := by
  obtain ⟨c, cs, hcs⟩ := List.exists_cons_of_ne_nil (by simpa using hpath : path.toList ≠ [])
  have hhead : (temporary path).toList.head? = path.toList.head? := by
    rw [temporary, String.toList_append, hcs, List.cons_append, List.head?_cons, List.head?_cons]
  rw [Disk.origin, Disk.origin, Disk.isAbsolute, Disk.isAbsolute, hhead]

theorem locate_temporary_ne (hpath : d.locate path = some place)
    (htmp : d.locate (temporary path) = some other) : place ≠ other := by
  obtain ⟨front, last, hsteps, hsteps'⟩ := steps_temporary path
  generalize hname : String.ofList (last ++ ['.', 't', 'm', 'p']) = name at hsteps'
  have hway := (Disk.locate_eq_some_iff hpath d place).1 hpath
  have hway' := (Disk.locate_eq_some_iff htmp d other).1 htmp
  rw [hsteps, Disk.foldlM_enter_concat] at hway
  rw [origin_temporary d (Disk.ne_empty_of_locate hpath), hsteps', Disk.foldlM_enter_concat] at hway'
  obtain ⟨base, hbase, hlast⟩ := hway
  obtain ⟨base', hbase', hlast'⟩ := hway'
  have hsame : base' = base := Option.some.inj (hbase'.symm.trans hbase)
  subst hsame
  have hchars : name.toList = last ++ ['.', 't', 'm', 'p'] := by rw [← hname, String.toList_ofList]
  -- The last step to the file beside is too long to be idle or to lead back.
  have hlong (s : String) (hs : s.toList.length < 4) : name ≠ s := by
    rintro rfl
    rw [hchars, List.length_append] at hs
    simp only [List.length_cons, List.length_nil] at hs
    omega
  have hidle : Disk.isIdle name = false := by
    simp [Disk.isIdle, hlong "" (by decide), hlong "." (by decide)]
  have hother : other = base' ++ [name] := Disk.enter_name hlast' hidle (hlong ".." (by decide))
  have hnew : String.ofList last ≠ name := by
    rintro rfl
    simp at hchars
  rw [hother]
  exact Disk.enter_ne_concat hlast hnew

/-- Before the last step directories have been made, and the file beside the session file may have
been written in part. A file there that is whole is no exception. -/
theorem unfinished (h : Disk.Stops d (persistence path entries) e left) (hleft : left ≠ []) :
    .rename (temporary path) path ∈ left ∧ ∃ made, d.Extends made ∧
      made.Partly (.write (temporary path) entries.toFileText.toUTF8) e := by
  cases h with
  | amid part => exact ⟨by simp, e, part.extends_makeFolders, .nothing _⟩
  | @on _ made _ _ _ _ first more =>
    have hmade : d.Extends made := by
      have hfolders := Disk.extends_makeFolders d (Disk.parent path)
      rw [Disk.perform] at first
      rwa [first] at hfolders
    cases more with
    | amid part => exact ⟨by simp, made, hmade, part⟩
    | on first more =>
      obtain ⟨place, hplace, hfree, rfl⟩ := Disk.write_eq_true first
      cases more with
      | amid part =>
        cases part
        exact ⟨by simp, made, hmade, .torn _ hplace hfree⟩
      | on first more =>
        cases more
        exact absurd rfl hleft

/-- Writing beside a session file neither moves its path nor touches it. -/
theorem locate_beside {bytes : ByteArray} (h : d.Partly (.write (temporary path) bytes) e) :
    e.locate path = d.locate path ∧ e.read? path = d.read? path := by
  cases h with
  | nothing => exact ⟨rfl, rfl⟩
  | @torn _ beside _ found leads free =>
    have hsame := Disk.locate_congr (Disk.sameFolders_put_file free found) path
    refine ⟨hsame, ?_⟩
    rw [Disk.read?_eq, Disk.read?_eq, hsame]
    cases hpath : d.locate path with
    | none => rfl
    | some target =>
      have hother : target ≠ beside := locate_temporary_ne hpath leads
      rw [Option.bind_some, Option.bind_some, Disk.fileAt_put_file, if_neg hother]

/-- Further directories do not change what is found at a path, unless they open a way that steps
back out of them. -/
theorem read?_of_extends (htree : d.IsTree) (h : d.Extends e)
    (hpath : d.locate path ≠ none ∨ ".." ∉ Disk.steps path) : e.read? path = d.read? path := by
  have hfiles : e.fileAt = d.fileAt := funext h.files
  rw [Disk.read?_eq, Disk.read?_eq, hfiles]
  cases hd : d.locate path with
  | some place => rw [Disk.locate_mono h.toMoreFolders hd]
  | none =>
    have hback : ".." ∉ Disk.steps path := hpath.resolve_left (absurd hd)
    cases he : e.locate path with
    | none => rfl
    | some place =>
      cases hfile : d.fileAt place with
      | none => simp [hfile]
      | some bytes =>
        -- A file found only by a way that has just been made.
        have hlocate := Disk.locate_of_extends htree h hback he (by simp [hfile])
        rw [hd] at hlocate
        cases hlocate

/-- A map on its way to a session file, whatever the file and the one beside it hold, comes to a
stop at any point, and what was under way has been done in part. If nothing is left to do, a store
opened on the file has this map. Otherwise the file is still to be put in place, and the one that
the path leads to now holds what it held: a store opened on it has the map it had before, unless the
path led nowhere and steps back out of a directory made for it. What is left is a tree again. The
store whose change it was has the new map in any case, and where it leaves the disk the write has
stopped. -/
theorem file_after_stop {d : Disk} (htree : d.IsTree) (path : String) (entries : Entries String)
    {e : Disk} {left : List Disk.Operation}
    (hstop : Disk.Stops d (persistence path entries) e left) :
    (left = [] → (openFile e path).entries = entries) ∧
    (left ≠ [] →
      .rename (temporary path) path ∈ left ∧
      e.read? path = (e.locate path).bind d.fileAt ∧
      (d.locate path ≠ none ∨ ".." ∉ Disk.steps path →
        (openFile e path).entries = (openFile d path).entries)) ∧
    e.IsTree ∧
    ∀ (s : Store) (change : Change), s.kind = .file path → s.disk = d →
      s.entries.apply change = entries →
        (s.apply change).entries = entries ∧
        ∃ rest, Disk.Stops d (persistence path entries) (s.apply change).disk rest := by
  refine ⟨?_, ?_, htree.stops hstop, ?_⟩
  · rintro rfl
    have hread := read?_of_persistence (Disk.performAll_of_stops hstop)
    exact load_eq hread
  · intro hleft
    obtain ⟨hrename, made, hmade, hpart⟩ := unfinished hstop hleft
    obtain ⟨hlocate, hread⟩ := locate_beside hpart
    have hfiles : made.fileAt = d.fileAt := funext hmade.files
    refine ⟨hrename, ?_, ?_⟩
    · rw [hread, hlocate, Disk.read?_eq, hfiles]
    · intro hpath
      have hsame : e.read? path = d.read? path := hread.trans (read?_of_extends htree hmade hpath)
      rw [openFile, openFile, load, load, hsame]
  · rintro s change hkind rfl rfl
    refine ⟨entries_apply s change, ?_⟩
    rw [disk_apply, hkind]
    exact Disk.stops_performAll s.disk _

def tokenMap (token : String) : Entries String := Entries.empty.insert Session.tokenKey token

def leftovers : Disk where
  nodes := [(["home", "s.json"], .file (tokenMap "old").toFileText.toUTF8),
    (["home", "s.json.tmp"], .file "stale".toUTF8)]
  working := ["home", "work"]

def torn : Disk := leftovers.put ["home", "s.json.tmp"] (.file "\x7b".toUTF8)

theorem torn_write_keeps_token :
    leftovers.IsTree ∧
    Disk.Stops leftovers (persistence "/home/s.json" (tokenMap "new")) torn
      [.write "/home/s.json.tmp" (tokenMap "new").toFileText.toUTF8,
        .rename "/home/s.json.tmp" "/home/s.json"] ∧
    (openFile torn "/home/s.json").entries = tokenMap "old" ∧
    (openFile torn "../s.json").entries = tokenMap "old" := by
  have htree : leftovers.IsTree := by decide
  have hstop : Disk.Stops leftovers (persistence "/home/s.json" (tokenMap "new")) torn
      [.write "/home/s.json.tmp" (tokenMap "new").toFileText.toUTF8,
        .rename "/home/s.json.tmp" "/home/s.json"] :=
    .on rfl (.amid (.torn _ (by decide) (by decide)) _)
  obtain ⟨-, hunfinished, -⟩ := file_after_stop htree "/home/s.json" (tokenMap "new") hstop
  obtain ⟨-, -, hsame⟩ := hunfinished (by simp)
  have hread : leftovers.read? "/home/s.json" = some (tokenMap "old").toFileText.toUTF8 := rfl
  have hother : torn.read? "../s.json" = some (tokenMap "old").toFileText.toUTF8 := rfl
  refine ⟨htree, hstop, ?_, load_eq hother⟩
  rw [hsame (.inr (by decide))]
  exact load_eq hread

def obstructed : Disk where
  nodes := [(["s.json"], .file (tokenMap "t").toFileText.toUTF8), (["s.json.tmp"], .folder)]
  working := []

/-- A path that steps back out of a directory made for it leads to a file that it did not lead to.
Nothing is found there before the write; the write fails after the directory has been made, and now
a store opened on the path has a token that is neither in the map before nor in the new one. -/
theorem detour_finds_token :
    obstructed.IsTree ∧
    (openFile obstructed "a/../s.json").entries = .empty ∧
    (obstructed.performAll (persistence "a/../s.json" .empty)).2 = false ∧
    (∃ left, .rename "a/../s.json.tmp" "a/../s.json" ∈ left ∧
      Disk.Stops obstructed (persistence "a/../s.json" .empty)
        (obstructed.performAll (persistence "a/../s.json" .empty)).1 left) ∧
    (openFile (obstructed.performAll (persistence "a/../s.json" .empty)).1 "a/../s.json").entries =
      tokenMap "t" ∧
    tokenMap "t" ≠ .empty := by
  have hfailed : (obstructed.performAll (persistence "a/../s.json" .empty)).2 = false := by decide
  have hread : (obstructed.performAll (persistence "a/../s.json" .empty)).1.read? "a/../s.json" =
      some (tokenMap "t").toFileText.toUTF8 := rfl
  refine ⟨by decide, rfl, hfailed, ?_, load_eq hread, by decide⟩
  obtain ⟨left, hstop⟩ := Disk.stops_performAll obstructed (persistence "a/../s.json" .empty)
  have hleft : left ≠ [] := by
    rintro rfl
    rw [Disk.performAll_of_stops hstop] at hfailed
    cases hfailed
  exact ⟨left, (unfinished hstop hleft).1, hstop⟩

end Store

end ClientAccess
