import ClientAccess.Proofs.Navigation.Landing
import ClientAccess.Proofs.Navigation.WayBack

/-! Pages that are closed to some visitors. A page that asks for roles looks at the stored profile
and not at the token: without a token it lets in whoever left a profile with one of its roles behind,
unless a record on the way needs a session. The sign-in page is closed to visitors with a session
where the guard has its path in canonical spelling; in any other spelling it is not recognised. -/
namespace ClientAccess.Application

variable {app : Application} {s : State} {target : String} {place : Location} {visit : Match}

theorem admits_of_navigate (hok : (app.navigate target s).1 = .ok place)
    (hvisit : app.table.resolve place = some visit) : app.Admits s.snapshot visit := by
  obtain ⟨found, hfound, -, hadmits⟩ := exists_admitted_of_navigate hok
  have hsame : found = visit := Option.some.inj (hfound.symm.trans hvisit)
  exact hsame ▸ hadmits

theorem navigate_of_admits (hvisit : app.table.resolve (Location.parse target) = some visit)
    (hadmits : app.Admits s.snapshot visit) :
    (app.navigate target s).1 = .ok visit.location :=
  navigate_of_landed ((hop_eq_landed_iff _ _ _ _).2 ⟨visit, hvisit, hadmits, rfl⟩)

theorem role_snapshot_eq_some_iff {role : String} :
    s.snapshot.role = some role ↔
      ∃ user, Session.user? s.store = some user ∧ user.role = some role :=
  Option.bind_eq_some_iff

/-- Without a token a navigation ends on a page that asks for roles only if nothing on the way needs
a session and the profile that is stored has one of the roles; so it never does where no profile is
stored. But on such a page it does end for such a profile. -/
theorem navigate_lands_by_profile (app : Application) (s : State)
    (ht : Session.token? s.store = none) :
    (∀ target place visit, (app.navigate target s).1 = .ok place →
      app.table.resolve place = some visit → visit.requiredRoles ≠ [] →
        visit.requiresAuth = false ∧ ∃ user, Session.user? s.store = some user ∧
          ∃ role ∈ visit.requiredRoles, user.role = some role) ∧
    (Session.user? s.store = none → ∀ target place visit, (app.navigate target s).1 = .ok place →
      app.table.resolve place = some visit → visit.requiredRoles = []) ∧
    ∀ target visit user, app.table.resolve (Location.parse target) = some visit →
      visit.record?.bind (·.redirect) = none → visit.requiresAuth = false →
      Session.user? s.store = some user →
      (∃ role ∈ visit.requiredRoles, user.role = some role) →
        (app.navigate target s).1 = .ok visit.location := by
  have hprofile : ∀ target place visit, (app.navigate target s).1 = .ok place →
      app.table.resolve place = some visit → visit.requiredRoles ≠ [] →
        visit.requiresAuth = false ∧ ∃ user, Session.user? s.store = some user ∧
          ∃ role ∈ visit.requiredRoles, user.role = some role := by
    intro target place visit hok hvisit hasks
    have hadmits := admits_of_navigate hok hvisit
    obtain ⟨role, hlisted, hrole⟩ := hadmits.role_of_required hasks
    obtain ⟨user, huser, hrole⟩ := role_snapshot_eq_some_iff.1 hrole
    exact ⟨hadmits.free_of_no_token ht, user, huser, role, hlisted, hrole⟩
  refine ⟨hprofile, ?_, ?_⟩
  · intro hnobody target place visit hok hvisit
    refine Classical.byContradiction fun hasks => ?_
    obtain ⟨-, user, huser, -⟩ := hprofile target place visit hok hvisit hasks
    rw [hnobody] at huser
    cases huser
  · rintro target visit user hvisit hstays hfree huser ⟨role, hlisted, hrole⟩
    refine navigate_of_admits hvisit ⟨hstays, (Guard.decide_eq_proceed_iff _ _ _).2 ⟨?_, ?_, ?_⟩⟩
    · simp [hfree]
    · rw [permits_iff]
      exact fun _ => ⟨role, hlisted, role_snapshot_eq_some_iff.2 ⟨user, huser, hrole⟩⟩
    · intro hlogin
      exact absurd ht (Snapshot.isAuthenticated_iff.1 hlogin.2)

def reporting : Application :=
  { standard with
    table := .ofForest [.node "/reports" none false ["analyst"] none [],
      .node "/dashboard" none false [] none []] }

theorem reports_closed_to_strangers :
    (reporting.navigate "/reports" (.ofStore (.inMemory .empty))).1 = .ok ⟨"/dashboard", []⟩ ∧
    ∃ visit, reporting.table.resolve ⟨"/dashboard", []⟩ = some visit ∧
      visit.requiredRoles = [] := by
  obtain ⟨-, hnobody, -⟩ := navigate_lands_by_profile reporting (.ofStore (.inMemory .empty)) rfl
  have hok : (reporting.navigate "/reports" (.ofStore (.inMemory .empty))).1 =
      .ok ⟨"/dashboard", []⟩ := rfl
  exact ⟨hok, _, rfl, hnobody rfl _ _ _ hok rfl⟩

def leftBehind : State :=
  .ofStore (.inMemory (.ofList
    [(Session.userKey, Profile.encode ⟨"1", some "analyst", .empty⟩)]))

/-- A profile that has outlived its token still opens the reports. -/
theorem reports_open_without_token :
    Session.token? leftBehind.store = none ∧
    (reporting.navigate "/reports" leftBehind).1 = .ok ⟨"/reports", []⟩ ∧
    ∃ visit, reporting.table.resolve ⟨"/reports", []⟩ = some visit ∧
      visit.requiredRoles = ["analyst"] :=
  ⟨rfl, rfl, _, rfl, rfl⟩

/-- With a token no navigation ends at the very path that the guard has for the sign-in page, so
where that path is canonical none ends on the sign-in page. In any other spelling it is no path that
a navigation can end at, and the sign-in page lets in everybody who has the roles it asks for. -/
theorem navigate_avoids_signIn (app : Application) (s : State)
    (ht : Session.token? s.store ≠ none) :
    (∀ target place, (app.navigate target s).1 = .ok place →
      place.path ≠ app.guard.loginPath) ∧
    (Path.normalize app.guard.loginPath = app.guard.loginPath →
      ∀ target place, (app.navigate target s).1 = .ok place →
        place.path ≠ Path.normalize app.guard.loginPath) ∧
    (Path.normalize app.guard.loginPath ≠ app.guard.loginPath →
      ∀ target visit, (Location.parse target).path = Path.normalize app.guard.loginPath →
        app.table.resolve (Location.parse target) = some visit →
        visit.record?.bind (·.redirect) = none →
        permits visit.requiredRoles s.snapshot.role = true →
          (app.navigate target s).1 = .ok (Location.parse target)) := by
  have hwho : s.snapshot.isAuthenticated = true := Snapshot.isAuthenticated_iff.2 ht
  have havoids : ∀ target place, (app.navigate target s).1 = .ok place →
      place.path ≠ app.guard.loginPath := by
    intro target place hok hlogin
    obtain ⟨visit, -, rfl, hadmits⟩ := exists_admitted_of_navigate hok
    have hopen := (Guard.decide_eq_proceed_iff _ _ _).1 hadmits.proceeds
    exact hopen.2.2 ⟨hlogin, hwho⟩
  refine ⟨havoids, ?_, ?_⟩
  · intro hcanonical
    rwa [hcanonical]
  · intro hspelled target visit hpath hvisit hstays hrole
    have hplace : visit.location = Location.parse target :=
      RouteTable.location_of_resolve hvisit (Location.isCanonical_parse target).canonical
    rw [← hplace] at hpath ⊢
    refine navigate_of_admits hvisit ⟨hstays, (Guard.decide_eq_proceed_iff _ _ _).2 ?_⟩
    exact ⟨fun _ => hwho, hrole, fun hlogin => hspelled (hpath.symm.trans hlogin.1)⟩

theorem signIn_closed_to_member :
    Path.normalize standard.guard.loginPath = standard.guard.loginPath ∧
    (standard.navigate "/login?redirect=x" member).1 = .ok ⟨"/dashboard", []⟩ ∧
    ∀ place, (standard.navigate "//login" member).1 = .ok place → place.path ≠ "/login" := by
  have ht : Session.token? member.store = some "t" := rfl
  obtain ⟨havoids, -, -⟩ := navigate_avoids_signIn standard member (by simp [ht])
  exact ⟨rfl, rfl, havoids "//login"⟩

def slashed : Application :=
  { standard with guard := { Guard.standard with loginPath := "/login/" } }

/-- A member who asks for the sign-in page rests there. -/
theorem signIn_open_where_slashed :
    Session.token? member.store = some "t" ∧
    (slashed.navigate "/login" member).1 = .ok ⟨"/login", []⟩ ∧
    Path.normalize slashed.guard.loginPath = "/login" :=
  ⟨rfl, rfl, rfl⟩

end ClientAccess.Application
