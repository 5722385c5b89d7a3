import ClientAccess.Proofs.Navigation.Hops

/-! Landing. Whatever hops lead there, the place where a navigation ends is one that the guard has
let through under the session of the moment, and nothing but a landing moves the application. -/
namespace ClientAccess.Application

theorem Admits.open_of_no_token {app : Application} {who : Snapshot} {visit : Match}
    (h : app.Admits who visit) (ht : who.token = none) :
    ∀ record ∈ visit.chain, record.requiresAuth = false := by
  have hfree : visit.chain.any (·.requiresAuth) = false := h.free_of_no_token ht
  intro record hmem
  simpa using List.any_eq_false.1 hfree record hmem

theorem Admits.role_of_required {app : Application} {who : Snapshot} {visit : Match}
    (h : app.Admits who visit) (hr : visit.requiredRoles ≠ []) :
    ∃ role ∈ visit.requiredRoles, who.role = some role := by
  have hperm := ((Guard.decide_eq_proceed_iff app.guard visit who).1 h.proceeds).2.1
  exact (permits_iff visit.requiredRoles who.role).1 hperm hr

theorem Admits.record_stays {app : Application} {who : Snapshot} {visit : Match}
    {location : Location} (h : app.Admits who visit)
    (hres : app.table.resolve location = some visit) :
    ∃ record, visit.record? = some record ∧ record.redirect = none := by
  obtain ⟨record, hrecord⟩ := RouteTable.record?_of_resolve hres
  have hstays := h.stays
  rw [hrecord, Option.bind_some] at hstays
  exact ⟨record, hrecord, hstays⟩

/-- A navigation leaves the store alone. If it is refused, the place stays what it was. If it ends
somewhere, that is where the application now is, the table knows the place, its record sends nobody
on, and the guard lets the visit proceed: without a token no record on the way needs a session, and
where roles are asked for the visitor has one of them. -/
theorem navigate_lands_admitted (app : Application) (target : String) (s : State) :
    (app.navigate target s).2.store = s.store ∧
    (∀ refusal, (app.navigate target s).1 = .error refusal →
      (app.navigate target s).2.current = s.current) ∧
    ∀ place, (app.navigate target s).1 = .ok place →
      (app.navigate target s).2.current = some place ∧
      ∃ visit, app.table.resolve place = some visit ∧ visit.location = place ∧
        (∃ record, visit.record? = some record ∧ record.redirect = none) ∧
        app.guard.decide visit s.snapshot = .proceed ∧
        (s.snapshot.token = none → ∀ record ∈ visit.chain, record.requiresAuth = false) ∧
        (visit.requiredRoles ≠ [] →
          ∃ role ∈ visit.requiredRoles, s.snapshot.role = some role) := by
  refine ⟨store_navigate app target s, ?_, ?_⟩
  · intro refusal href
    rw [current_navigate, href]
    rfl
  · intro place hok
    have hplace : (app.navigate target s).2.current = some place := by
      rw [current_navigate, hok]
      rfl
    obtain ⟨visit, hres, hloc, hadmits⟩ := exists_admitted_of_navigate hok
    exact ⟨hplace, visit, hres, hloc, hadmits.record_stays hres, hadmits.proceeds,
      hadmits.open_of_no_token, hadmits.role_of_required⟩

theorem navigate_users_signed_out :
    (standard.navigate "/users" (.ofStore (.inMemory .empty))).1 =
        .ok ⟨"/login", [("redirect", "/users")]⟩ ∧
      ∃ visit, standard.table.resolve ⟨"/login", [("redirect", "/users")]⟩ = some visit ∧
        standard.guard.decide visit (State.ofStore (.inMemory .empty)).snapshot = .proceed := by
  have hok : (standard.navigate "/users" (.ofStore (.inMemory .empty))).1 =
      .ok ⟨"/login", [("redirect", "/users")]⟩ := rfl
  obtain ⟨-, -, hland⟩ := navigate_lands_admitted standard "/users" (.ofStore (.inMemory .empty))
  obtain ⟨-, visit, hres, -, -, hgo, -, -⟩ := hland _ hok
  exact ⟨hok, visit, hres, hgo⟩

end ClientAccess.Application
