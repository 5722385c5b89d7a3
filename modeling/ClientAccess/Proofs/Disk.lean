import ClientAccess.Disk

/-! Places and files. Where a path leads is settled by the directories on its way and by the working
directory: files may come and go without moving it, and once it leads somewhere further directories
do not move it either. In a tree, where everything lies in a directory, a path without a step back
leads to every file it will ever lead to. -/
namespace ClientAccess.Disk

variable {d e k : Disk} {place other : List String} {path step : String} {bytes : ByteArray}

def fileAt (d : Disk) (place : List String) : Option ByteArray :=
  match d.node? place with
  | some (.file bytes) => some bytes
  | _ => none

theorem read?_eq (d : Disk) (path : String) : d.read? path = (d.locate path).bind d.fileAt := by
  unfold read?
  cases hplace : d.locate path with
  | none => rfl
  | some place =>
    cases hnode : d.node? place with
    | none => simp [fileAt, hnode]
    | some node => cases node <;> simp [fileAt, hnode]

theorem read?_eq_none (h : ∀ place, d.locate path = some place →
    d.node? place = none ∨ d.node? place = some .folder) : d.read? path = none := by
  rw [read?_eq, Option.bind_eq_none_iff]
  intro place hplace
  rcases h place hplace with hnode | hnode
  · rw [fileAt, hnode]
  · rw [fileAt, hnode]

theorem isFolder_iff :
    d.isFolder place = true ↔ place <+: d.working ∨ d.node? place = some .folder := by
  rw [isFolder, Bool.or_eq_true, List.isPrefixOf_iff_prefix]
  refine or_congr_right ?_
  cases d.node? place with
  | none => simp
  | some node => cases node <;> simp [Node.isFolder]

theorem isFolder_origin (d : Disk) (path : String) : d.isFolder (d.origin path) = true := by
  refine isFolder_iff.2 (.inl ?_)
  unfold origin
  split
  · exact List.nil_prefix
  · exact List.prefix_refl _

theorem node?_unlink (d : Disk) (place other : List String) :
    (d.unlink place).node? other = if other = place then none else d.node? other := by
  rw [node?, unlink, List.find?_filter, node?]
  by_cases ho : other = place
  · simp [ho]
  · have hsame : (fun p : List String × Node => decide (p.1 != place ∧ p.1 == other)) =
        fun p => p.1 == other := by
      funext p
      by_cases hp : p.1 = other
      · simp [hp, ho]
      · simp [hp]
    rw [if_neg ho]
    simp only [hsame]

theorem node?_put (d : Disk) (place other : List String) (node : Node) :
    (d.put place node).node? other = if other = place then some node else d.node? other := by
  by_cases ho : other = place
  · simp [node?, put, ho]
  · have hne : (place == other) = false := by simpa using Ne.symm ho
    have hrest := node?_unlink d place other
    rw [if_neg ho] at hrest
    rw [if_neg ho, ← hrest]
    simp only [node?, put, List.find?_cons, hne]

theorem fileAt_put_file (d : Disk) (place other : List String) (bytes : ByteArray) :
    (d.put place (.file bytes)).fileAt other =
      if other = place then some bytes else d.fileAt other := by
  rw [fileAt, node?_put]
  by_cases ho : other = place
  · simp [ho]
  · simp [ho, fileAt]

/-! Other directories. -/

/-- The directories of one disk are on the other as well, seen from the same working directory. -/
structure MoreFolders (d e : Disk) : Prop where
  working : e.working = d.working
  folders : ∀ place, d.isFolder place = true → e.isFolder place = true

structure SameFolders (d e : Disk) : Prop where
  working : e.working = d.working
  folders : ∀ place, e.isFolder place = d.isFolder place

theorem SameFolders.more (h : d.SameFolders e) : d.MoreFolders e :=
  ⟨h.working, fun place hplace => (h.folders place).trans hplace⟩

theorem SameFolders.symm (h : d.SameFolders e) : e.SameFolders d :=
  ⟨h.working.symm, fun place => (h.folders place).symm⟩

theorem SameFolders.trans (h : d.SameFolders e) (h' : e.SameFolders k) : d.SameFolders k :=
  ⟨h'.working.trans h.working, fun place => (h'.folders place).trans (h.folders place)⟩

theorem sameFolders_put_file (h : d.isFolder place = false) (bytes : ByteArray) :
    d.SameFolders (d.put place (.file bytes)) where
  working := rfl
  folders := by
    intro other
    rw [isFolder, node?_put, isFolder]
    by_cases ho : other = place
    · rw [isFolder, Bool.or_eq_false_iff] at h
      simp [ho, put, h.1, h.2, Node.isFolder]
    · rw [if_neg ho]
      rfl

theorem sameFolders_unlink (h : d.node? place = some (.file bytes)) :
    d.SameFolders (d.unlink place) where
  working := rfl
  folders := by
    intro other
    rw [isFolder, node?_unlink, isFolder]
    by_cases ho : other = place
    · simp [ho, h, unlink, Node.isFolder]
    · rw [if_neg ho]
      rfl

theorem origin_eq (h : d.MoreFolders e) (path : String) : e.origin path = d.origin path := by
  rw [origin, h.working, origin]

/-- A step starts from a directory. It stays there, goes back, or goes on to a name. -/
theorem enter_cases {next : List String} (h : d.enter place step = some next) :
    d.isFolder place = true ∧
      (isIdle step = true ∧ next = place ∨ step = ".." ∧ next = place.dropLast ∨
        isIdle step = false ∧ step ≠ ".." ∧ next = place ++ [step]) := by
  unfold enter at h
  split at h
  · cases h
  · next hfolder =>
    refine ⟨by simpa using hfolder, ?_⟩
    split at h
    · next hidle => exact .inl ⟨hidle, (Option.some.inj h).symm⟩
    · next hidle =>
      split at h
      · next hback => exact .inr (.inl ⟨by simpa using hback, (Option.some.inj h).symm⟩)
      · next hback =>
        split at h
        · exact .inr (.inr ⟨by simpa using hidle, by simpa using hback, (Option.some.inj h).symm⟩)
        · cases h

theorem enter_name {next : List String} (h : d.enter place step = some next)
    (hidle : isIdle step = false) (hback : step ≠ "..") : next = place ++ [step] := by
  rcases (enter_cases h).2 with ⟨hstays, -⟩ | ⟨hstep, -⟩ | ⟨-, -, hnext⟩
  · rw [hidle] at hstays
    cases hstays
  · exact absurd hstep hback
  · exact hnext

theorem enter_ne_concat {next : List String} {name : String} (h : d.enter place step = some next)
    (hname : step ≠ name) : next ≠ place ++ [name] := by
  rcases (enter_cases h).2 with ⟨-, rfl⟩ | ⟨-, rfl⟩ | ⟨-, -, rfl⟩
  · simp
  · intro he
    have hlen := congrArg List.length he
    simp only [List.length_dropLast, List.length_append, List.length_singleton] at hlen
    omega
  · simpa using hname

theorem enter_of_isFolder {next : List String} (h : d.enter place step = some next)
    (hfolder : e.isFolder place = true) : e.enter place step = some next := by
  have hstart := (enter_cases h).1
  simpa [enter, hstart, hfolder] using h

theorem foldlM_enter_concat {front : List String} {last : String} {target : List String} :
    (front ++ [last]).foldlM d.enter place = some target ↔
      ∃ base, front.foldlM d.enter place = some base ∧ d.enter base last = some target := by
  simp [List.foldlM_append, Option.bind_eq_some_iff]

theorem foldlM_enter_mono (h : d.MoreFolders e) {steps : List String} {next : List String}
    (hsteps : steps.foldlM d.enter place = some next) :
    steps.foldlM e.enter place = some next := by
  induction steps generalizing place with
  | nil => exact hsteps
  | cons step steps ih =>
    rw [List.foldlM_cons] at hsteps ⊢
    obtain ⟨middle, hfirst, hrest⟩ := Option.bind_eq_some_iff.1 hsteps
    have hfirst' := enter_of_isFolder hfirst (h.folders place (enter_cases hfirst).1)
    exact Option.bind_eq_some_iff.2 ⟨middle, hfirst', ih hrest⟩

theorem locate_eq_some_iff (hpath : d.locate path = some place) (e : Disk) (other : List String) :
    e.locate path = some other ↔ (steps path).foldlM e.enter (e.origin path) = some other := by
  unfold locate at hpath ⊢
  split at hpath
  · cases hpath
  · next hguard => rw [if_neg hguard]

theorem ne_empty_of_locate (hpath : d.locate path = some place) : path ≠ "" := by
  rintro rfl
  simp [locate] at hpath

theorem locate_mono (h : d.MoreFolders e) (hpath : d.locate path = some place) :
    e.locate path = some place := by
  have hsteps := (locate_eq_some_iff hpath d place).1 hpath
  rw [← origin_eq h path] at hsteps
  exact (locate_eq_some_iff hpath e place).2 (foldlM_enter_mono h hsteps)

theorem locate_congr (h : d.SameFolders e) (path : String) : e.locate path = d.locate path := by
  cases hd : d.locate path with
  | some place => exact locate_mono h.more hd
  | none =>
    cases he : e.locate path with
    | none => rfl
    | some place =>
      rw [locate_mono h.symm.more he] at hd
      cases hd

/-! Writing and renaming. -/

theorem write_eq_true (h : d.write path bytes = (e, true)) :
    ∃ place, d.locate path = some place ∧ d.isFolder place = false ∧
      e = d.put place (.file bytes) := by
  unfold write at h
  split at h
  · cases h
  · next place hplace =>
    split at h
    · cases h
    · next hfree =>
      cases h
      exact ⟨place, hplace, by simpa using hfree, rfl⟩

theorem read?_write (h : d.write path bytes = (e, true)) : e.read? path = some bytes := by
  obtain ⟨place, hplace, hfree, rfl⟩ := write_eq_true h
  have hsame := locate_congr (sameFolders_put_file hfree bytes) path
  rw [read?_eq, hsame, hplace, Option.bind_some, fileAt_put_file, if_pos rfl]

theorem rename_eq_true {source target : String} (h : d.rename source target = (e, true)) :
    ∃ old new bytes, d.locate source = some old ∧ d.locate target = some new ∧
      d.node? old = some (.file bytes) ∧ d.isFolder new = false ∧
      e = (d.unlink old).put new (.file bytes) := by
  unfold rename at h
  split at h
  · next old new hold hnew =>
    split at h
    · next bytes hnode =>
      split at h
      · cases h
      · next hfree =>
        cases h
        exact ⟨old, new, bytes, hold, hnew, hnode, by simpa using hfree, rfl⟩
    · cases h
  · cases h

theorem read?_rename {source target : String} (h : d.rename source target = (e, true)) :
    e.read? target = d.read? source := by
  obtain ⟨old, new, bytes, hold, hnew, hnode, hfree, rfl⟩ := rename_eq_true h
  have hunlink := sameFolders_unlink hnode
  have hput := sameFolders_put_file ((hunlink.folders new).trans hfree) bytes
  have hsame := locate_congr (hunlink.trans hput) target
  have hfile : d.fileAt old = some bytes := by rw [fileAt, hnode]
  rw [read?_eq, hsame, hnew, Option.bind_some, fileAt_put_file, if_pos rfl, read?_eq, hold,
    Option.bind_some, hfile]

theorem performAll_cons_eq_true {op : Operation} {ops : List Operation}
    (h : d.performAll (op :: ops) = (e, true)) :
    ∃ next, d.perform op = (next, true) ∧ next.performAll ops = (e, true) := by
  rw [performAll] at h
  split at h
  · next next hfirst => exact ⟨next, hfirst, h⟩
  · cases h

/-! Directories made. -/

/-- Nothing but further directories. -/
structure Extends (d e : Disk) : Prop extends MoreFolders d e where
  files : ∀ place, e.fileAt place = d.fileAt place

theorem Extends.refl (d : Disk) : d.Extends d := ⟨⟨rfl, fun _ h => h⟩, fun _ => rfl⟩

theorem Extends.trans (h : d.Extends e) (h' : e.Extends k) : d.Extends k :=
  ⟨⟨h'.working.trans h.working, fun place hp => h'.folders place (h.folders place hp)⟩,
    fun place => (h'.files place).trans (h.files place)⟩

theorem extends_put_folder (h : d.node? place = none) : d.Extends (d.put place .folder) where
  working := rfl
  folders := by
    intro other hother
    rw [isFolder, node?_put]
    by_cases ho : other = place
    · simp [ho, Node.isFolder]
    · rw [if_neg ho]
      exact hother
  files := by
    intro other
    rw [fileAt, node?_put, fileAt]
    by_cases ho : other = place
    · simp [ho, h]
    · rw [if_neg ho]

theorem extends_makeSteps (d : Disk) (place steps : List String) :
    d.Extends (d.makeSteps place steps).1 := by
  induction steps generalizing d place with
  | nil => exact .refl d
  | cons step steps ih =>
    rw [makeSteps]
    split
    · exact .refl d
    · next next _ =>
      split
      · exact ih d next
      · split
        · exact .refl d
        · next hfree => exact (extends_put_folder (by simpa using hfree)).trans (ih _ next)

theorem extends_makeFolders (d : Disk) (path : String) : d.Extends (d.makeFolders path).1 := by
  unfold makeFolders
  split
  · exact extends_makeSteps d (d.origin path) (steps path)
  · exact .refl d

/-! Trees. -/

/-- Everything lies in a directory. -/
def IsTree (d : Disk) : Prop := ∀ node ∈ d.nodes, d.isFolder node.1.dropLast = true

instance (d : Disk) : Decidable d.IsTree := inferInstanceAs (Decidable (∀ node ∈ d.nodes, _))

theorem IsTree.isFolder_dropLast (h : d.IsTree) (hnode : d.node? place ≠ none) :
    d.isFolder place.dropLast = true := by
  cases hfound : d.nodes.find? (·.1 == place) with
  | none => simp [node?, hfound] at hnode
  | some node =>
    have hplace : node.1 = place := by simpa using List.find?_some hfound
    exact hplace ▸ h node (List.mem_of_find?_eq_some hfound)

theorem IsTree.isFolder_dropLast_of_isFolder (h : d.IsTree) (hfolder : d.isFolder place = true) :
    d.isFolder place.dropLast = true := by
  rcases isFolder_iff.1 hfolder with hworking | hnode
  · exact isFolder_iff.2 (.inl ((List.dropLast_prefix place).trans hworking))
  · exact h.isFolder_dropLast (by simp [hnode])

theorem IsTree.isFolder_dropLast_of_enter (h : d.IsTree) {next : List String}
    (henter : d.enter place step = some next) : d.isFolder next.dropLast = true := by
  obtain ⟨hplace, hnext⟩ := enter_cases henter
  have hparent := h.isFolder_dropLast_of_isFolder hplace
  rcases hnext with ⟨-, rfl⟩ | ⟨-, rfl⟩ | ⟨-, -, rfl⟩
  · exact hparent
  · exact h.isFolder_dropLast_of_isFolder hparent
  · rwa [List.dropLast_concat]

theorem IsTree.isFolder_dropLast_of_locate (h : d.IsTree) (hpath : d.locate path = some place) :
    d.isFolder place.dropLast = true := by
  have hsteps := (locate_eq_some_iff hpath d place).1 hpath
  rcases List.eq_nil_or_concat (steps path) with hnil | ⟨front, last, hconcat⟩
  · rw [hnil] at hsteps
    cases hsteps
    exact h.isFolder_dropLast_of_isFolder (isFolder_origin d path)
  · rw [hconcat, List.concat_eq_append, foldlM_enter_concat] at hsteps
    obtain ⟨base, -, hlast⟩ := hsteps
    exact h.isFolder_dropLast_of_enter hlast

theorem IsTree.put {node : Node} (h : d.IsTree) (hparent : d.isFolder place.dropLast = true)
    (hkept : d.MoreFolders (d.put place node)) : (d.put place node).IsTree := by
  intro other hother
  rcases List.mem_cons.1 hother with rfl | hother
  · exact hkept.folders _ hparent
  · exact hkept.folders _ (h other (List.mem_filter.1 hother).1)

theorem IsTree.put_file (h : d.IsTree) (hpath : d.locate path = some place)
    (hfree : d.isFolder place = false) (bytes : ByteArray) : (d.put place (.file bytes)).IsTree :=
  h.put (h.isFolder_dropLast_of_locate hpath) (sameFolders_put_file hfree bytes).more

theorem IsTree.unlink (h : d.IsTree) (hnode : d.node? place = some (.file bytes)) :
    (d.unlink place).IsTree := by
  intro other hother
  rw [(sameFolders_unlink hnode).folders]
  exact h other (List.mem_filter.1 hother).1

theorem IsTree.makeSteps (h : d.IsTree) (place steps : List String) :
    (d.makeSteps place steps).1.IsTree := by
  induction steps generalizing d place with
  | nil => exact h
  | cons step steps ih =>
    rw [Disk.makeSteps]
    split
    · exact h
    · next next henter =>
      split
      · exact ih h next
      · split
        · exact h
        · next hfree =>
          have hmade : d.Extends (d.put next .folder) := extends_put_folder (by simpa using hfree)
          exact ih (h.put (h.isFolder_dropLast_of_enter henter) hmade.toMoreFolders) next

theorem IsTree.perform {op : Operation} (h : d.IsTree) (hop : d.perform op = (e, true)) :
    e.IsTree := by
  cases op with
  | makeFolders path =>
    simp only [Disk.perform, makeFolders] at hop
    split at hop
    · have hsteps := h.makeSteps (d.origin path) (steps path)
      rwa [hop] at hsteps
    · cases hop
  | write path bytes =>
    obtain ⟨place, hplace, hfree, rfl⟩ := write_eq_true hop
    exact h.put_file hplace hfree bytes
  | rename source target =>
    obtain ⟨old, new, bytes, -, hnew, hnode, hfree, rfl⟩ := rename_eq_true hop
    have hsame := sameFolders_unlink hnode
    have hnew' := (locate_congr hsame target).trans hnew
    exact (h.unlink hnode).put_file hnew' ((hsame.folders new).trans hfree) bytes

theorem IsTree.isFolder_above (h : d.IsTree) (hnode : d.node? place ≠ none) {above : List String}
    (habove : above <+: place) (hne : above ≠ place) : d.isFolder above = true := by
  induction hlen : place.length generalizing place with
  | zero =>
    have hnil : place = [] := List.length_eq_zero_iff.1 hlen
    subst hnil
    exact absurd (List.prefix_nil.1 habove) hne
  | succ n ih =>
    have hparent := h.isFolder_dropLast hnode
    have hbelow : above <+: place.dropLast := by
      obtain ⟨rest, rfl⟩ := habove
      rcases List.eq_nil_or_concat rest with rfl | ⟨front, last, rfl⟩
      · exact absurd (List.append_nil above).symm hne
      · exact ⟨front, by simp [← List.append_assoc]⟩
    by_cases hsame : above = place.dropLast
    · exact hsame ▸ hparent
    · rcases isFolder_iff.1 hparent with hworking | hfolder
      · exact isFolder_iff.2 (.inl (hbelow.trans hworking))
      · exact ih (by simp [hfolder]) hbelow hsame (by simp [hlen])

theorem prefix_of_foldlM_enter {steps target : List String} (hback : ".." ∉ steps)
    (h : steps.foldlM d.enter place = some target) : place <+: target := by
  induction steps generalizing place with
  | nil =>
    cases h
    exact List.prefix_refl _
  | cons step steps ih =>
    rw [List.mem_cons, not_or] at hback
    rw [List.foldlM_cons] at h
    obtain ⟨next, hfirst, hrest⟩ := Option.bind_eq_some_iff.1 h
    have hnext : place <+: next := by
      rcases (enter_cases hfirst).2 with ⟨-, rfl⟩ | ⟨hstep, -⟩ | ⟨-, -, rfl⟩
      · exact List.prefix_refl _
      · exact absurd hstep.symm hback.1
      · exact List.prefix_append place [step]
    exact hnext.trans (ih hback.2 hrest)

theorem foldlM_enter_of_node (htree : d.IsTree) {steps target : List String}
    (hnode : d.node? target ≠ none) (hsame : e.isFolder target = true → d.isFolder target = true)
    (hback : ".." ∉ steps) (h : steps.foldlM e.enter place = some target) :
    steps.foldlM d.enter place = some target := by
  induction steps generalizing place with
  | nil => exact h
  | cons step steps ih =>
    have hbelow := prefix_of_foldlM_enter hback h
    rw [List.mem_cons, not_or] at hback
    rw [List.foldlM_cons] at h ⊢
    obtain ⟨next, hfirst, hrest⟩ := Option.bind_eq_some_iff.1 h
    -- Short of the target the tree has its directories; the target itself is none of those made.
    have hstart : d.isFolder place = true := by
      by_cases hend : place = target
      · exact hend ▸ hsame (hend ▸ (enter_cases hfirst).1)
      · exact htree.isFolder_above hnode hbelow hend
    exact Option.bind_eq_some_iff.2 ⟨next, enter_of_isFolder hfirst hstart, ih hback.2 hrest⟩

/-- A path without a step back led to a file already, if it leads there after directories have been
made. -/
theorem locate_of_extends (htree : d.IsTree) (h : d.Extends e) (hback : ".." ∉ steps path)
    (hpath : e.locate path = some place) (hfile : d.fileAt place ≠ none) :
    d.locate path = some place := by
  have hnode : d.node? place ≠ none := by
    intro hnone
    simp [fileAt, hnone] at hfile
  have hsame : e.isFolder place = true → d.isFolder place = true := by
    intro hfolder
    rcases isFolder_iff.1 hfolder with hworking | hmade
    · exact isFolder_iff.2 (.inl (h.working ▸ hworking))
    · rw [← h.files place, fileAt, hmade] at hfile
      exact absurd rfl hfile
  have hsteps := (locate_eq_some_iff hpath e place).1 hpath
  rw [origin_eq h.toMoreFolders path] at hsteps
  exact (locate_eq_some_iff hpath d place).2 (foldlM_enter_of_node htree hnode hsame hback hsteps)

end ClientAccess.Disk
