import ClientAccess.Proofs.Navigation.Hops

/-! Navigation as a walk. A location sends the visitor on, by its record or by the guard, or it is
where a walk stops; never both. A navigation walks for eight redirects at most: it has the result of
the location where its walk stops, and is given up where the ninth location sends it on as well. -/
namespace ClientAccess.Application

/-- A location sends a visitor on: its record does, or else the guard does. -/
inductive Redirects (app : Application) (who : Snapshot) (x : Location) : Location → Prop where
  | byRecord {visit : Match} {redirect : String} {next : Location}
    (known : app.table.resolve x = some visit)
    (sends : visit.record?.bind (·.redirect) = some redirect)
    (onward : LeadsOn redirect x next) : Redirects app who x next
  | byGuard {visit : Match} {next : Location} (known : app.table.resolve x = some visit)
    (stays : visit.record?.bind (·.redirect) = none)
    (sends : (app.guard.decide visit who).location? app.guard = some next) :
    Redirects app who x next

/-- A walk stops at a location, with a result: the table does not know it, or the visitor may rest
there. -/
inductive Stops (app : Application) (who : Snapshot) (x : Location) :
    Except Navigation.Refusal Location → Prop where
  | unknown (missing : app.table.resolve x = none) : Stops app who x (.error (.notFound x.fullPath))
  | landed {visit : Match} (known : app.table.resolve x = some visit)
    (admits : app.Admits who visit) : Stops app who x (.ok visit.location)

inductive Walk (app : Application) (who : Snapshot) : Nat → Location → Location → Prop where
  | rest (x : Location) : Walk app who 0 x x
  | move {n : Nat} {x y z : Location} (first : app.Redirects who x y) (more : Walk app who n y z) :
    Walk app who (n + 1) x z

variable {app : Application} {who : Snapshot} {x y z : Location} {m n : Nat}
  {r : Except Navigation.Refusal Location}

theorem Redirects.hop (h : app.Redirects who x y) : ∃ denied, app.hop who x = .moved y denied := by
  cases h with
  | byRecord known sends onward => exact ⟨false, hop_of_record known sends onward⟩
  | byGuard known stays sends => exact ⟨_, hop_of_guard known stays rfl sends⟩

theorem Stops.hop (h : app.Stops who x r) :
    app.hop who x = .unknown ∧ r = .error (.notFound x.fullPath) ∨
      ∃ place, app.hop who x = .landed place ∧ r = .ok place := by
  cases h with
  | unknown missing => exact .inl ⟨by simp [Application.hop, missing], rfl⟩
  | @landed visit known admits =>
    have hland := (hop_eq_landed_iff app who x visit.location).2 ⟨visit, known, admits, rfl⟩
    exact .inr ⟨visit.location, hland, rfl⟩

theorem redirects_or_stops (app : Application) (who : Snapshot) (x : Location) :
    (∃ y, app.Redirects who x y) ∨ ∃ r, app.Stops who x r := by
  cases hres : app.table.resolve x with
  | none => exact .inr ⟨_, .unknown hres⟩
  | some visit =>
    cases hrecord : visit.record?.bind (·.redirect) with
    | some redirect => exact .inl ⟨_, .byRecord hres hrecord (leadsOn_redirected _ _)⟩
    | none =>
      cases hnext : (app.guard.decide visit who).location? app.guard with
      | some next => exact .inl ⟨next, .byGuard hres hrecord hnext⟩
      | none =>
        have hgo := (Decision.location?_eq_none_iff app.guard _).1 hnext
        exact .inr ⟨_, .landed hres ⟨hrecord, hgo⟩⟩

theorem Redirects.unique (h : app.Redirects who x y) (h' : app.Redirects who x z) : y = z := by
  obtain ⟨d, hmoved⟩ := h.hop
  obtain ⟨d', hmoved'⟩ := h'.hop
  have hsame : Hop.moved y d = .moved z d' := hmoved.symm.trans hmoved'
  cases hsame
  rfl

theorem Stops.not_redirects (h : app.Stops who x r) : ¬ app.Redirects who x y := by
  intro hredirects
  obtain ⟨d, hmoved⟩ := hredirects.hop
  rcases h.hop with ⟨hunknown, -⟩ | ⟨place, hlanded, -⟩
  · simp [hunknown] at hmoved
  · simp [hlanded] at hmoved

theorem Walk.append (h : app.Walk who m x y) (h' : app.Walk who n y z) :
    app.Walk who (m + n) x z := by
  induction h with
  | rest x => simpa using h'
  | move first more ih =>
    have hmore := Walk.move first (ih h')
    rwa [Nat.add_right_comm] at hmore

theorem Walk.take (h : app.Walk who m x z) (hn : n ≤ m) : ∃ y, app.Walk who n x y := by
  induction h generalizing n with
  | rest x =>
    have hzero : n = 0 := by omega
    exact ⟨x, hzero ▸ .rest x⟩
  | @move m x y z first more ih =>
    cases n with
    | zero => exact ⟨x, .rest x⟩
    | succ n =>
      obtain ⟨w, hw⟩ := ih (Nat.le_of_succ_le_succ hn)
      exact ⟨w, .move first hw⟩

/-- There is one walk: on its way to where it stops it passes every location it leads to. -/
theorem Walk.rest_of_stops (h : app.Walk who n x y) (hwhole : app.Walk who m x z)
    (hstops : app.Stops who z r) : ∃ k, m = n + k ∧ app.Walk who k y z := by
  induction h generalizing m with
  | rest x => exact ⟨m, (Nat.zero_add m).symm, hwhole⟩
  | @move n x w y first more ih =>
    cases hwhole with
    | rest => exact absurd first hstops.not_redirects
    | @move m _ w' _ first' more' =>
      have hsame : w' = w := first'.unique first
      obtain ⟨k, hk, hrest⟩ := ih (hsame ▸ more')
      exact ⟨k, by omega, hrest⟩

theorem Walk.times (h : app.Walk who n x x) (k : Nat) : app.Walk who (n * k) x x := by
  induction k with
  | zero => exact .rest x
  | succ k ih => exact ih.append h

theorem Walk.of_cycle (h : app.Walk who n x y) (hcycle : app.Walk who (m + 1) y y) (k : Nat) :
    ∃ z, app.Walk who k x z := by
  have hlong : app.Walk who (n + (m + 1) * k) x y := h.append (hcycle.times k)
  have hle : k ≤ n + (m + 1) * k := by
    have hmul : (m + 1) * k = m * k + k := Nat.succ_mul m k
    omega
  exact hlong.take hle

theorem stops_or_walks (app : Application) (who : Snapshot) (x : Location) (hops : Nat) :
    (∃ n < hops, ∃ y r, app.Walk who n x y ∧ app.Stops who y r) ∨ ∃ y, app.Walk who hops x y := by
  induction hops generalizing x with
  | zero => exact .inr ⟨x, .rest x⟩
  | succ hops ih =>
    rcases redirects_or_stops app who x with ⟨y, hfirst⟩ | ⟨r, hstops⟩
    · rcases ih y with ⟨n, hn, z, r, hwalk, hstops⟩ | ⟨z, hwalk⟩
      · exact .inl ⟨n + 1, by omega, z, r, .move hfirst hwalk, hstops⟩
      · exact .inr ⟨z, .move hfirst hwalk⟩
    · exact .inl ⟨0, by omega, x, r, .rest x, hstops⟩

variable {target : String} {denied : Bool} {hops : Nat}

theorem follow_of_stops (h : app.Walk who n x y) (hstops : app.Stops who y r) (hn : n < hops) :
    (app.follow who target denied x hops).1 = r := by
  induction h generalizing denied hops with
  | rest x =>
    cases hops with
    | zero => omega
    | succ hops =>
      rcases hstops.hop with ⟨hunknown, rfl⟩ | ⟨place, hlanded, rfl⟩
      · rw [follow_of_unknown hunknown]
      · rw [follow_of_landed hlanded]
  | move first more ih =>
    cases hops with
    | zero => omega
    | succ hops =>
      obtain ⟨d, hmoved⟩ := first.hop
      rw [follow_of_moved hmoved]
      exact ih hstops (by omega)

theorem follow_of_walk (h : app.Walk who n x y) :
    (app.follow who target denied x n).1 = .error (.redirectLoop target) := by
  induction h generalizing denied with
  | rest x => rfl
  | move first more ih =>
    obtain ⟨d, hmoved⟩ := first.hop
    rw [follow_of_moved hmoved]
    exact ih

/-- What hops come to: the result where their walk stops, or no end within their number. -/
theorem follow_eq_iff : (app.follow who target denied x hops).1 = r ↔
    (∃ n < hops, ∃ y, app.Walk who n x y ∧ app.Stops who y r) ∨
      r = .error (.redirectLoop target) ∧ ∃ y, app.Walk who hops x y := by
  constructor
  · intro h
    rcases stops_or_walks app who x hops with ⟨n, hn, y, r', hwalk, hstops⟩ | ⟨y, hwalk⟩
    · have hsame : r' = r := (follow_of_stops hwalk hstops hn).symm.trans h
      exact .inl ⟨n, hn, y, hwalk, hsame ▸ hstops⟩
    · exact .inr ⟨h.symm.trans (follow_of_walk hwalk), y, hwalk⟩
  · rintro (⟨n, hn, y, hwalk, hstops⟩ | ⟨rfl, y, hwalk⟩)
    · exact follow_of_stops hwalk hstops hn
    · exact follow_of_walk hwalk

theorem navigate_eq_iff {s : State} : (app.navigate target s).1 = r ↔
    (∃ n ≤ 8, ∃ y, app.Walk s.snapshot n (Location.parse target) y ∧ app.Stops s.snapshot y r) ∨
      r = .error (.redirectLoop target) ∧
        ∃ y, app.Walk s.snapshot 9 (Location.parse target) y := by
  have hlimit : ∀ n, n < redirectLimit + 1 ↔ n ≤ 8 := fun n => Nat.lt_succ_iff
  rw [navigate_eq, hopsOf, follow_eq_iff]
  simp only [hlimit]
  rfl

theorem navigate_of_stops {s : State} (h : app.Walk s.snapshot n (Location.parse target) y)
    (hstops : app.Stops s.snapshot y r) (hn : n ≤ 8) : (app.navigate target s).1 = r :=
  navigate_eq_iff.2 (.inl ⟨n, hn, y, h, hstops⟩)

theorem navigate_eq_ok_iff {s : State} {place : Location} : (app.navigate target s).1 = .ok place ↔
    ∃ n ≤ 8, ∃ last visit, app.Walk s.snapshot n (Location.parse target) last ∧
      app.table.resolve last = some visit ∧ app.Admits s.snapshot visit ∧
      visit.location = place := by
  rw [navigate_eq_iff]
  constructor
  · rintro (⟨n, hn, last, hwalk, hstops⟩ | ⟨hloop, -⟩)
    · cases hstops with
      | landed known admits => exact ⟨n, hn, last, _, hwalk, known, admits, rfl⟩
    · cases hloop
  · rintro ⟨n, hn, last, visit, hwalk, known, admits, rfl⟩
    exact .inl ⟨n, hn, last, hwalk, .landed known admits⟩

theorem navigate_eq_notFound_iff {s : State} {path : String} :
    (app.navigate target s).1 = .error (.notFound path) ↔
      ∃ n ≤ 8, ∃ last, app.Walk s.snapshot n (Location.parse target) last ∧
        app.table.resolve last = none ∧ last.fullPath = path := by
  rw [navigate_eq_iff]
  constructor
  · rintro (⟨n, hn, last, hwalk, hstops⟩ | ⟨hloop, -⟩)
    · cases hstops with
      | unknown missing => exact ⟨n, hn, last, hwalk, missing, rfl⟩
    · cases hloop
  · rintro ⟨n, hn, last, hwalk, missing, rfl⟩
    exact .inl ⟨n, hn, last, hwalk, .unknown missing⟩

theorem navigate_eq_redirectLoop_iff {s : State} {asked : String} :
    (app.navigate target s).1 = .error (.redirectLoop asked) ↔
      asked = target ∧ ∃ last, app.Walk s.snapshot 9 (Location.parse target) last := by
  rw [navigate_eq_iff]
  constructor
  · rintro (⟨n, hn, last, hwalk, hstops⟩ | ⟨hloop, hlong⟩)
    · cases hstops
    · cases hloop
      exact ⟨rfl, hlong⟩
  · rintro ⟨rfl, hlong⟩
    exact .inr ⟨rfl, hlong⟩

/-- A navigation goes where its walk from the target leads. It ends in a place exactly when the walk
comes to that place after eight redirects at most, and at an unknown path exactly when that is where
it stops; it is given up, under the name of the target as it was asked for, exactly when nine
locations in a row send the visitor on. So a walk into a circle is always given up, and one that
comes to rest after eight redirects never. -/
theorem navigate_walks (app : Application) (target : String) (s : State) :
    (∀ place, (app.navigate target s).1 = .ok place ↔
      ∃ n ≤ 8, ∃ last visit, app.Walk s.snapshot n (Location.parse target) last ∧
        app.table.resolve last = some visit ∧ app.Admits s.snapshot visit ∧
        visit.location = place) ∧
    (∀ path, (app.navigate target s).1 = .error (.notFound path) ↔
      ∃ n ≤ 8, ∃ last, app.Walk s.snapshot n (Location.parse target) last ∧
        app.table.resolve last = none ∧ last.fullPath = path) ∧
    (∀ asked, (app.navigate target s).1 = .error (.redirectLoop asked) ↔
      asked = target ∧ ∃ last, app.Walk s.snapshot 9 (Location.parse target) last) ∧
    (∀ n m x, app.Walk s.snapshot n (Location.parse target) x → app.Walk s.snapshot (m + 1) x x →
      (app.navigate target s).1 = .error (.redirectLoop target)) ∧
    ∀ last visit, app.Walk s.snapshot 8 (Location.parse target) last →
      app.table.resolve last = some visit → app.Admits s.snapshot visit →
      (app.navigate target s).1 = .ok visit.location := by
  refine ⟨fun _ => navigate_eq_ok_iff, fun _ => navigate_eq_notFound_iff,
    fun _ => navigate_eq_redirectLoop_iff, ?_, ?_⟩
  · intro n m x hwalk hcycle
    exact navigate_eq_redirectLoop_iff.2 ⟨rfl, hwalk.of_cycle hcycle 9⟩
  · intro last visit hwalk known admits
    exact navigate_of_stops hwalk (.landed known admits) (Nat.le_refl 8)

def page (path : String) (redirect : Option String) : Chain := [⟨path, none, false, [], redirect⟩]

def circle : Application :=
  { standard with table := ⟨[page "/a" (some "/b"), page "/b" (some "/a")]⟩ }

def stairs : Application :=
  { standard with
    table := ⟨[page "/0" (some "/1"), page "/1" (some "/2"), page "/2" (some "/3"),
      page "/3" (some "/4"), page "/4" (some "/5"), page "/5" (some "/6"), page "/6" (some "/7"),
      page "/7" (some "/8"), page "/8" none]⟩ }

theorem navigate_circle_stairs :
    (circle.navigate "/a" (.ofStore (.inMemory .empty))).1 = .error (.redirectLoop "/a") ∧
    (stairs.navigate "/0" (.ofStore (.inMemory .empty))).1 = .ok ⟨"/8", []⟩ := by
  obtain ⟨-, -, -, hcircle, -⟩ := navigate_walks circle "/a" (.ofStore (.inMemory .empty))
  obtain ⟨-, -, -, -, hstairs⟩ := navigate_walks stairs "/0" (.ofStore (.inMemory .empty))
  constructor
  · refine hcircle 0 1 ⟨"/a", []⟩ (.rest _) ?_
    have hthere : circle.Redirects (Session.snapshot (.inMemory .empty)) ⟨"/a", []⟩ ⟨"/b", []⟩ :=
      .byRecord rfl rfl (leadsOn_redirected _ _)
    have hback : circle.Redirects (Session.snapshot (.inMemory .empty)) ⟨"/b", []⟩ ⟨"/a", []⟩ :=
      .byRecord rfl rfl (leadsOn_redirected _ _)
    exact .move hthere (.move hback (.rest _))
  · refine hstairs ⟨"/8", []⟩ ⟨⟨"/8", []⟩, page "/8" none⟩ ?_ rfl ⟨rfl, rfl⟩
    iterate 8 refine .move (.byRecord rfl rfl (leadsOn_redirected _ _)) ?_
    exact .rest _

end ClientAccess.Application
