import ClientAccess.Proofs.Navigation.WayBack

/-! Denials. A location denies a visitor where the guard judges it and misses a role. A navigation
remembers whether one of its locations did, not which nor how many, and tells that once, wherever it
ends. -/
namespace ClientAccess.Application

inductive Denies (app : Application) (who : Snapshot) (x : Location) : Prop where
  | byRole {visit : Match} (known : app.table.resolve x = some visit)
    (stays : visit.record?.bind (·.redirect) = none)
    (denied : app.guard.decide visit who = .toDefault) : Denies app who x

/-- One of the first locations on the way from a location denies the visitor. -/
def DeniesWithin (app : Application) (who : Snapshot) (x : Location) (hops : Nat) : Prop :=
  ∃ n < hops, ∃ y, app.Walk who n x y ∧ app.Denies who y

variable {app : Application} {who : Snapshot} {x y : Location} {target : String} {denied : Bool}
  {hops : Nat} {r : Except Navigation.Refusal Location}

theorem Denies.hop (h : app.Denies who x) :
    app.hop who x = .moved (Location.ofPath app.guard.defaultPath) true := by
  cases h with
  | byRole known stays denied => exact hop_of_guard known stays denied rfl

theorem Redirects.denies_iff {d : Bool} (h : app.Redirects who x y)
    (hmoved : app.hop who x = .moved y d) : d = true ↔ app.Denies who x := by
  constructor
  · rintro rfl
    cases h with
    | byRecord known sends onward =>
      rw [hop_of_record known sends onward] at hmoved
      cases hmoved
    | @byGuard visit _ known stays sends =>
      rw [hop_of_guard known stays rfl sends, Hop.moved.injEq] at hmoved
      exact .byRole known stays (by simpa using hmoved.2)
  · intro hdenies
    rw [hdenies.hop] at hmoved
    cases hmoved
    rfl

theorem Stops.not_denies (h : app.Stops who x r) : ¬ app.Denies who x := by
  intro hdenies
  have hmoved := hdenies.hop
  rcases h.hop with ⟨hunknown, -⟩ | ⟨place, hlanded, -⟩
  · simp [hunknown] at hmoved
  · simp [hlanded] at hmoved

theorem Stops.not_deniesWithin (h : app.Stops who x r) (hops : Nat) :
    ¬ app.DeniesWithin who x hops := by
  rintro ⟨n, -, y, hwalk, hdenies⟩
  cases hwalk with
  | rest => exact h.not_denies hdenies
  | move first more => exact h.not_redirects first

theorem Redirects.deniesWithin_succ_iff (h : app.Redirects who x y) :
    app.DeniesWithin who x (hops + 1) ↔ app.Denies who x ∨ app.DeniesWithin who y hops := by
  constructor
  · rintro ⟨n, hn, z, hwalk, hdenies⟩
    cases hwalk with
    | rest => exact .inl hdenies
    | @move n _ w _ first more =>
      have hsame : w = y := first.unique h
      exact .inr ⟨n, by omega, z, hsame ▸ more, hdenies⟩
  · rintro (hdenies | ⟨n, hn, z, hwalk, hdenies⟩)
    · exact ⟨0, by omega, x, .rest x, hdenies⟩
    · exact ⟨n + 1, by omega, z, .move h hwalk, hdenies⟩

theorem follow_snd_iff : (app.follow who target denied x hops).2 = true ↔
    denied = true ∨ app.DeniesWithin who x hops := by
  induction hops generalizing denied x with
  | zero => simp [follow, DeniesWithin]
  | succ hops ih =>
    rcases redirects_or_stops app who x with ⟨y, hfirst⟩ | ⟨r, hstops⟩
    · obtain ⟨d, hmoved⟩ := hfirst.hop
      rw [follow_of_moved hmoved, ih, Bool.or_eq_true, hfirst.denies_iff hmoved,
        hfirst.deniesWithin_succ_iff, or_assoc]
    · have hnone := hstops.not_deniesWithin (hops + 1)
      rcases hstops.hop with ⟨hunknown, -⟩ | ⟨place, hlanded, -⟩
      · simp [follow_of_unknown hunknown, hnone]
      · simp [follow_of_landed hlanded, hnone]

theorem hopsOf_snd_iff {s : State} : (app.hopsOf target s).2 = true ↔
    ∃ n ≤ 8, ∃ x, app.Walk s.snapshot n (Location.parse target) x ∧ app.Denies s.snapshot x := by
  have hlimit : ∀ n, n < redirectLimit + 1 ↔ n ≤ 8 := fun n => Nat.lt_succ_iff
  rw [hopsOf, follow_snd_iff, DeniesWithin]
  simp only [hlimit, Bool.false_eq_true, false_or]

/-- A navigation judges the target and up to eight locations that it is sent on to. If one of them
denies the visitor, this is told once and nothing else is, however many of them do and wherever the
navigation ends; if none does, nothing is told. Judging any visit by itself comes to the decision
that checking it does, which has no state to change: where the decision is to send the visitor to
the default page, that is told once and nothing else changes, and otherwise nothing does. -/
theorem navigate_tells_denial (app : Application) (s : State) :
    (∀ target,
      ((∃ n ≤ 8, ∃ x, app.Walk s.snapshot n (Location.parse target) x ∧
          app.Denies s.snapshot x) →
        (app.navigate target s).2.trace =
          s.trace ++ [.notified "you are not authorized to access this page"]) ∧
      ((¬ ∃ n ≤ 8, ∃ x, app.Walk s.snapshot n (Location.parse target) x ∧
          app.Denies s.snapshot x) →
        (app.navigate target s).2.trace = s.trace)) ∧
    ∀ visit,
      (app.evaluate visit s).1 = app.check visit s ∧
      app.check visit s = app.guard.decide visit s.snapshot ∧
      (app.check visit s = .toDefault →
        (app.evaluate visit s).2 = s.notify "you are not authorized to access this page") ∧
      (app.check visit s ≠ .toDefault → (app.evaluate visit s).2 = s) := by
  constructor
  · intro target
    rw [trace_navigate]
    constructor
    · intro hdenies
      rw [if_pos (hopsOf_snd_iff.2 hdenies)]
      rfl
    · intro hnone
      rw [if_neg (mt hopsOf_snd_iff.1 hnone), List.append_nil]
  · intro visit
    refine ⟨rfl, rfl, ?_, ?_⟩
    · intro hdenied
      exact if_pos (beq_iff_eq.2 hdenied)
    · intro hother
      exact if_neg (mt beq_iff_eq.1 hother)

def barred (path : String) : Application :=
  { standard with table := ⟨[[⟨path, none, false, ["admin"], none⟩]]⟩ }

theorem denials_told_to_member :
    ((barred "/dashboard").navigate "/dashboard" member).1 =
      .error (.redirectLoop "/dashboard") ∧
    ((barred "/dashboard").navigate "/dashboard" member).2.trace =
      [.notified "you are not authorized to access this page"] ∧
    ((barred "/users").navigate "/users" member).1 = .error (.notFound "/dashboard") ∧
    ((barred "/users").navigate "/users" member).2.trace =
      [.notified "you are not authorized to access this page"] ∧
    (standard.navigate "/users" member).1 = .ok ⟨"/dashboard", []⟩ ∧
    (standard.navigate "/users" member).2.trace =
      [.notified "you are not authorized to access this page"] ∧
    (standard.navigate "/orders" member).2.trace = [] ∧
    (standard.evaluate ⟨⟨"/users", []⟩, [⟨"/users", none, false, ["admin"], none⟩]⟩ member).2 =
      member.notify "you are not authorized to access this page" := by
  have hbarred (path : String) := navigate_tells_denial (barred path) member
  obtain ⟨hnavigate, hevaluate⟩ := navigate_tells_denial standard member
  obtain ⟨orders, known, admits, -⟩ :=
    (hop_eq_landed_iff standard member.snapshot ⟨"/orders", []⟩ ⟨"/orders", []⟩).1 rfl
  have hnone := (Stops.landed known admits).not_deniesWithin 9
  refine ⟨rfl, ?_, rfl, ?_, rfl, ?_, ?_, (hevaluate _).2.2.1 rfl⟩
  · exact ((hbarred "/dashboard").1 "/dashboard").1 ⟨0, by omega, _, .rest _, .byRole rfl rfl rfl⟩
  · exact ((hbarred "/users").1 "/users").1 ⟨0, by omega, _, .rest _, .byRole rfl rfl rfl⟩
  · exact (hnavigate "/users").1 ⟨0, by omega, _, .rest _, .byRole rfl rfl rfl⟩
  · refine (hnavigate "/orders").2 fun ⟨n, hn, hrest⟩ => hnone ⟨n, Nat.lt_succ_of_le hn, hrest⟩

end ClientAccess.Application
