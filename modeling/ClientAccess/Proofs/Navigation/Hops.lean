import ClientAccess.Application.Navigation
import ClientAccess.Proofs.Location.Canonical

/-! What the guard lets through, what one hop can come to, and what a whole navigation leaves of
the state it starts from. -/
namespace ClientAccess

theorem Snapshot.isAuthenticated_iff {who : Snapshot} :
    who.isAuthenticated = true ↔ who.token ≠ none :=
  Option.isSome_iff_ne_none

theorem permits_iff (required : List String) (role : Option String) :
    permits required role = true ↔ (required ≠ [] → ∃ r ∈ required, role = some r) := by
  cases required with
  | nil => simp [permits]
  | cons first rest => cases role <;> simp [permits]

theorem Decision.location?_eq_none_iff (g : Guard) (d : Decision) :
    d.location? g = none ↔ d = .proceed := by
  cases d <;> simp [Decision.location?]

/-- The rules of the guard, read as conditions under which a visit goes on. -/
theorem Guard.decide_eq_proceed_iff (g : Guard) (visit : Match) (who : Snapshot) :
    g.decide visit who = .proceed ↔
      (visit.requiresAuth = true → who.isAuthenticated = true) ∧
      permits visit.requiredRoles who.role = true ∧
      ¬ (visit.location.path = g.loginPath ∧ who.isAuthenticated = true) := by
  unfold Guard.decide
  cases hauth : visit.requiresAuth <;> cases hwho : who.isAuthenticated <;>
    cases hrole : permits visit.requiredRoles who.role <;>
    by_cases hpath : visit.location.path = g.loginPath <;> simp [hpath]

theorem Guard.decide_eq_toLogin {visit : Match} {who : Snapshot} (g : Guard)
    (hauth : visit.requiresAuth = true) (ht : who.token = none) :
    g.decide visit who = .toLogin visit.fullPath := by
  simp [decide, hauth, Snapshot.isAuthenticated, ht]

theorem Guard.decide_eq_toDefault_iff (g : Guard) (visit : Match) (who : Snapshot) :
    g.decide visit who = .toDefault ↔
      (visit.requiresAuth = true → who.isAuthenticated = true) ∧
      permits visit.requiredRoles who.role = false := by
  unfold Guard.decide
  cases hauth : visit.requiresAuth <;> cases hwho : who.isAuthenticated <;>
    cases hrole : permits visit.requiredRoles who.role <;>
    by_cases hpath : visit.location.path = g.loginPath <;> simp [hpath]

theorem Guard.decide_eq_toRoot {visit : Match} {who : Snapshot} (g : Guard)
    (hrole : permits visit.requiredRoles who.role = true)
    (hpath : visit.location.path = g.loginPath) (hwho : who.isAuthenticated = true) :
    g.decide visit who = .toRoot := by
  simp [decide, hwho, hrole, hpath]

namespace Application

def standard : Application := ⟨applicationTable, .standard, "", "/login"⟩

/-- Where a visit may come to rest: its record sends nobody on, and the guard lets it go on. -/
structure Admits (app : Application) (who : Snapshot) (visit : Match) : Prop where
  stays : visit.record?.bind (·.redirect) = none
  proceeds : app.guard.decide visit who = .proceed

theorem Admits.free_of_no_token {app : Application} {who : Snapshot} {visit : Match}
    (h : app.Admits who visit) (ht : who.token = none) : visit.requiresAuth = false := by
  have hauth := ((Guard.decide_eq_proceed_iff app.guard visit who).1 h.proceeds).1
  cases hneeds : visit.requiresAuth with
  | false => rfl
  | true => exact absurd ht (Snapshot.isAuthenticated_iff.1 (hauth hneeds))

theorem hop_eq_landed_iff (app : Application) (who : Snapshot) (location place : Location) :
    app.hop who location = .landed place ↔
      ∃ visit, app.table.resolve location = some visit ∧ app.Admits who visit ∧
        visit.location = place := by
  unfold hop
  cases hres : app.table.resolve location with
  | none => simp
  | some visit =>
    cases hredirect : visit.record?.bind (·.redirect) with
    | some redirect =>
      have hno : ¬ app.Admits who visit := by
        intro h
        simp [h.stays] at hredirect
      simp [hredirect, hno]
    | none =>
      cases hnext : (app.guard.decide visit who).location? app.guard with
      | none =>
        have hgo := (Decision.location?_eq_none_iff _ _).1 hnext
        have hyes : app.Admits who visit := ⟨hredirect, hgo⟩
        simp [hredirect, hnext, hyes]
      | some next =>
        have hno : ¬ app.Admits who visit := by
          intro h
          simp [h.proceeds, Decision.location?] at hnext
        simp [hredirect, hnext, hno]

/-- A redirect leads on from a location to the place it names. The query is that of the redirect,
or if this has none that of the location. -/
structure LeadsOn (redirect : String) (x next : Location) : Prop where
  path : next.path = (Location.parse redirect).path
  kept : (Location.parse redirect).query = [] → next.query = x.query
  own : (Location.parse redirect).query ≠ [] → next.query = (Location.parse redirect).query

theorem leadsOn_redirected (redirect : String) (x : Location) :
    LeadsOn redirect x (redirected redirect x.query) where
  path := by
    unfold redirected
    simp only
    split
    · rfl
    · rfl
  kept := by
    intro hnone
    simp [redirected, hnone]
  own := by
    intro hsome
    simp [redirected, hsome]

theorem LeadsOn.unique {redirect : String} {x y z : Location} (h : LeadsOn redirect x y)
    (h' : LeadsOn redirect x z) : y = z := by
  have hpath : y.path = z.path := h.path.trans h'.path.symm
  have hquery : y.query = z.query := by
    by_cases hnone : (Location.parse redirect).query = []
    · rw [h.kept hnone, h'.kept hnone]
    · rw [h.own hnone, h'.own hnone]
  cases y
  cases z
  simp only at hpath hquery
  rw [hpath, hquery]

theorem hop_of_record {app : Application} {who : Snapshot} {x y : Location} {visit : Match}
    {redirect : String} (hres : app.table.resolve x = some visit)
    (hsends : visit.record?.bind (·.redirect) = some redirect) (honward : LeadsOn redirect x y) :
    app.hop who x = .moved y false := by
  simp [hop, hres, hsends, honward.unique (leadsOn_redirected redirect x)]

theorem hop_of_guard {app : Application} {who : Snapshot} {x y : Location} {visit : Match}
    {decision : Decision} (hres : app.table.resolve x = some visit)
    (hstays : visit.record?.bind (·.redirect) = none)
    (hdecide : app.guard.decide visit who = decision)
    (hnext : decision.location? app.guard = some y) :
    app.hop who x = .moved y (decision == .toDefault) := by
  simp [hop, hres, hstays, hdecide, hnext]

section Follow

variable {app : Application} {who : Snapshot} {x y : Location} {target : String} {denied : Bool}
  {hops : Nat}

theorem follow_of_unknown (h : app.hop who x = .unknown) :
    app.follow who target denied x (hops + 1) = (.error (.notFound x.fullPath), denied) := by
  rw [follow, h]

theorem follow_of_moved {d : Bool} (h : app.hop who x = .moved y d) :
    app.follow who target denied x (hops + 1) = app.follow who target (denied || d) y hops := by
  rw [follow, h]

theorem follow_of_landed (h : app.hop who x = .landed y) :
    app.follow who target denied x (hops + 1) = (.ok y, denied) := by
  rw [follow, h]

end Follow

theorem exists_landed_of_follow {app : Application} {who : Snapshot} {target : String}
    {denied : Bool} {location place : Location} {hops : Nat}
    (h : (app.follow who target denied location hops).1 = .ok place) :
    ∃ last, app.hop who last = .landed place := by
  -- A move leaves one hop less, from another place and perhaps after a denial.
  induction hops generalizing denied location with
  | zero => simp [follow] at h
  | succ hops ih =>
    rw [follow] at h
    cases hhop : app.hop who location with
    | unknown => simp [hhop] at h
    | moved next d =>
      rw [hhop] at h
      exact ih h
    | landed there =>
      have he : there = place := by simpa [hhop] using h
      exact ⟨location, he ▸ hhop⟩

def placeAfter (before : Option Location) : Except Navigation.Refusal Location → Option Location
  | .ok place => some place
  | .error _ => before

/-- The hops of a navigation, all of which are judged by the session as it is at the start. -/
def hopsOf (app : Application) (target : String) (s : State) :
    Except Navigation.Refusal Location × Bool :=
  app.follow s.snapshot target false (Location.parse target) (redirectLimit + 1)

theorem navigate_eq (app : Application) (target : String) (s : State) :
    app.navigate target s =
      ((app.hopsOf target s).1,
        { store := s.store
          current := placeAfter s.current (app.hopsOf target s).1
          trace := s.trace ++
            if (app.hopsOf target s).2 then [.notified unauthorizedMessage] else [] }) := by
  cases hhops : app.hopsOf target s with
  | mk result denied =>
    have hfollow : app.follow s.snapshot target false (Location.parse target) (redirectLimit + 1) =
        (result, denied) := hhops
    rw [navigate, hfollow]
    cases result <;> cases denied <;> simp [placeAfter, State.notify, State.record]

@[simp] theorem store_navigate (app : Application) (target : String) (s : State) :
    (app.navigate target s).2.store = s.store := by
  rw [navigate_eq]

theorem current_navigate (app : Application) (target : String) (s : State) :
    (app.navigate target s).2.current = placeAfter s.current (app.navigate target s).1 := by
  rw [navigate_eq]

theorem trace_navigate (app : Application) (target : String) (s : State) :
    (app.navigate target s).2.trace = s.trace ++
      if (app.hopsOf target s).2 then [.notified unauthorizedMessage] else [] := by
  rw [navigate_eq]

theorem exists_admitted_of_navigate {app : Application} {target : String} {s : State}
    {place : Location} (h : (app.navigate target s).1 = .ok place) :
    ∃ visit, app.table.resolve place = some visit ∧ visit.location = place ∧
      app.Admits s.snapshot visit := by
  rw [navigate_eq] at h
  obtain ⟨last, hlast⟩ := exists_landed_of_follow h
  obtain ⟨visit, hres, hadmits, rfl⟩ := (hop_eq_landed_iff app s.snapshot last place).1 hlast
  exact ⟨visit, RouteTable.resolve_location hres, rfl, hadmits⟩

theorem hopsOf_of_landed {app : Application} {target : String} {s : State} {place : Location}
    (h : app.hop s.snapshot (Location.parse target) = .landed place) :
    app.hopsOf target s = (.ok place, false) :=
  follow_of_landed h

theorem navigate_of_landed {app : Application} {target : String} {s : State} {place : Location}
    (h : app.hop s.snapshot (Location.parse target) = .landed place) :
    (app.navigate target s).1 = .ok place := by
  rw [navigate_eq, hopsOf_of_landed h]

@[simp] theorem store_push (app : Application) (path : String) (s : State) :
    (app.push path s).store = s.store := by
  simp [push, State.record]

theorem current_push (app : Application) (path : String) (s : State) :
    (app.push path s).current = placeAfter s.current (app.navigate path s).1 := by
  rw [push, current_navigate]
  simp only [navigate_eq]
  rfl

theorem evaluate_snd (app : Application) (visit : Match) (s : State) :
    (app.evaluate visit s).2 = s ∨ (app.evaluate visit s).2 = s.notify unauthorizedMessage := by
  by_cases hdenied : (app.check visit s == .toDefault) = true
  · exact .inr (if_pos hdenied)
  · exact .inl (if_neg hdenied)

end Application

end ClientAccess
