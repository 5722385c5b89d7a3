import ClientAccess.Proofs.Navigation.WayBack

/-! Where the application's own routes lead. Without a session every page but registration leads to
the sign-in page, which is told the page asked for; with one the sign-in page and the root lead to
the dashboard, and so does the page of users unless an administrator asks. No redirect is repeated,
so every page of the table leads somewhere. -/
namespace ClientAccess.Application

def own (baseUrl loginPath : String) : Application :=
  ⟨applicationTable, .standard, baseUrl, loginPath⟩

/-- Where a visitor ends up who asks for one of the pages. -/
def ownPlace (who : Snapshot) (asked : Location) : Location :=
  if who.token = none then
    if asked.path = "/login" ∨ asked.path = "/register" then asked
    else if asked.path = "/" then
      ⟨"/login", [("redirect", Location.fullPath ⟨"/dashboard", asked.query⟩)]⟩
    else ⟨"/login", [("redirect", asked.fullPath)]⟩
  else if asked.path = "/login" then ⟨"/dashboard", []⟩
  else if asked.path = "/" then ⟨"/dashboard", asked.query⟩
  else if asked.path = "/users" ∧ who.role ≠ some "admin" then ⟨"/dashboard", []⟩
  else asked

def isDeniedUsers (who : Snapshot) (asked : Location) : Bool :=
  asked.path == "/users" && who.token.isSome && who.role != some "admin"

theorem paths_applicationTable : applicationTable.paths =
    ["/login", "/register", "/", "/dashboard", "/users", "/merchants", "/orders"] := rfl

variable {baseUrl loginPath target : String} {who : Snapshot} {x : Location}

theorem resolve_own {path : String} {chain : Chain}
    (h : applicationTable.resolve ⟨path, []⟩ = some ⟨⟨path, []⟩, chain⟩) (hx : x.path = path) :
    (own baseUrl loginPath).table.resolve x = some ⟨x, chain⟩ := by
  have hcanonical : Path.normalize path = path := by
    have hplace := (RouteTable.of_resolve h).1
    simpa using hplace.symm
  exact RouteTable.resolve_of_path h hx (hx ▸ hcanonical)

theorem exists_open_own (baseUrl loginPath : String) (hx : x.path ∈ ["/login", "/register"]) :
    ∃ visit, (own baseUrl loginPath).table.resolve x = some visit ∧ visit.location = x ∧
      visit.IsOpen := by
  simp only [List.mem_cons, List.not_mem_nil, or_false] at hx
  rcases hx with hx | hx
  · exact ⟨_, resolve_own rfl hx, rfl, rfl, rfl, rfl⟩
  · exact ⟨_, resolve_own rfl hx, rfl, rfl, rfl, rfl⟩

structure IsPrivate (visit : Match) : Prop where
  needs : visit.requiresAuth = true
  stays : visit.record?.bind (·.redirect) = none
  asks : visit.requiredRoles = if visit.location.path = "/users" then ["admin"] else []

theorem exists_private_own (baseUrl loginPath : String)
    (hx : x.path ∈ ["/dashboard", "/users", "/merchants", "/orders"]) :
    ∃ visit, (own baseUrl loginPath).table.resolve x = some visit ∧ visit.location = x ∧
      IsPrivate visit := by
  simp only [List.mem_cons, List.not_mem_nil, or_false] at hx
  rcases hx with hx | hx | hx | hx
  · exact ⟨_, resolve_own rfl hx, rfl, rfl, rfl, by rw [hx]; rfl⟩
  · exact ⟨_, resolve_own rfl hx, rfl, rfl, rfl, by rw [hx]; rfl⟩
  · exact ⟨_, resolve_own rfl hx, rfl, rfl, rfl, by rw [hx]; rfl⟩
  · exact ⟨_, resolve_own rfl hx, rfl, rfl, rfl, by rw [hx]; rfl⟩

theorem mem_private (hx : x.path ∈ applicationTable.paths)
    (hopen : x.path ∉ ["/login", "/register"]) (hroot : x.path ≠ "/") :
    x.path ∈ ["/dashboard", "/users", "/merchants", "/orders"] := by
  rw [paths_applicationTable] at hx
  simp only [List.mem_cons, List.not_mem_nil, or_false, not_or] at hx hopen ⊢
  simpa [hopen, hroot] using hx

theorem exists_visit_own (baseUrl loginPath : String)
    (hx : x.path ∈ applicationTable.paths) :
    ∃ visit, (own baseUrl loginPath).table.resolve x = some visit ∧
      visit.requiredRoles = (if x.path = "/users" then ["admin"] else []) ∧
      (x.path = "/users" → visit.requiresAuth = true) := by
  by_cases hopen : x.path ∈ ["/login", "/register"]
  · obtain ⟨visit, hres, rfl, hvisit⟩ := exists_open_own baseUrl loginPath hopen
    have hother : visit.location.path ≠ "/users" := fun h => absurd hopen (by simp [h])
    exact ⟨visit, hres, by rw [hvisit.common, if_neg hother], fun h => absurd h hother⟩
  by_cases hroot : x.path = "/"
  · have hother : x.path ≠ "/users" := by simp [hroot]
    refine ⟨_, resolve_own rfl hroot, ?_, fun h => absurd h hother⟩
    rw [if_neg hother]
    rfl
  · obtain ⟨visit, hres, rfl, hvisit⟩ :=
      exists_private_own baseUrl loginPath (mem_private hx hopen hroot)
    exact ⟨visit, hres, hvisit.asks, fun _ => hvisit.needs⟩

theorem location?_own (decision : Decision) :
    decision.location? (own baseUrl loginPath).guard =
      match decision with
      | .proceed => none
      | .toLogin wayBack => some ⟨"/login", [("redirect", wayBack)]⟩
      | .toDefault => some ⟨"/dashboard", []⟩
      | .toRoot => some ⟨"/", []⟩ := by
  have hguard : (own baseUrl loginPath).guard = .standard := rfl
  have hpath : Location.ofPath "/login" = ⟨"/login", []⟩ := rfl
  rw [hguard]
  cases decision with
  | toLogin wayBack => simp [Decision.location?, Guard.standard, hpath, Location.addQuery]
  | _ => rfl

theorem hop_own_root (hx : x.path = "/") :
    (own baseUrl loginPath).hop who x = .moved ⟨"/dashboard", x.query⟩ false := by
  have hparse : Location.parse "/dashboard" = ⟨"/dashboard", []⟩ := rfl
  exact hop_of_record (resolve_own rfl hx) rfl (by constructor <;> simp [hparse])

theorem hop_own_open (ht : who.token = none) (hx : x.path ∈ ["/login", "/register"]) :
    (own baseUrl loginPath).hop who x = .landed x := by
  obtain ⟨visit, hres, hplace, hopen⟩ := exists_open_own baseUrl loginPath hx
  exact (hop_eq_landed_iff _ _ _ _).2 ⟨visit, hres, Admits.of_isOpen hopen ht, hplace⟩

theorem hop_own_private (ht : who.token = none)
    (hx : x.path ∈ ["/dashboard", "/users", "/merchants", "/orders"]) :
    (own baseUrl loginPath).hop who x = .moved ⟨"/login", [("redirect", x.fullPath)]⟩ false := by
  obtain ⟨visit, hres, rfl, hprivate⟩ := exists_private_own baseUrl loginPath hx
  exact hop_of_guard hres hprivate.stays (Guard.decide_eq_toLogin _ hprivate.needs ht)
    (location?_own _)

theorem hop_own_permitted {visit : Match} (ht : who.token ≠ none)
    (hres : (own baseUrl loginPath).table.resolve x = some visit) (hplace : visit.location = x)
    (hstays : visit.record?.bind (·.redirect) = none)
    (hrole : permits visit.requiredRoles who.role = true) (hx : x.path ≠ "/login") :
    (own baseUrl loginPath).hop who x = .landed x := by
  refine (hop_eq_landed_iff _ _ _ _).2 ⟨visit, hres, ⟨hstays, ?_⟩, hplace⟩
  refine (Guard.decide_eq_proceed_iff _ _ _).2 ⟨fun _ => ?_, hrole, fun h => ?_⟩
  · exact Snapshot.isAuthenticated_iff.2 ht
  · exact hx (hplace ▸ h.1)

theorem hop_own_register (ht : who.token ≠ none) (hx : x.path = "/register") :
    (own baseUrl loginPath).hop who x = .landed x := by
  obtain ⟨visit, hres, hplace, hopen⟩ :=
    exists_open_own baseUrl loginPath (x := x) (by simp [hx])
  exact hop_own_permitted ht hres hplace hopen.stays (by simp [permits, hopen.common])
    (by simp [hx])

theorem hop_own_visited (ht : who.token ≠ none)
    (hx : x.path ∈ ["/dashboard", "/users", "/merchants", "/orders"])
    (hrole : x.path = "/users" → who.role = some "admin") :
    (own baseUrl loginPath).hop who x = .landed x := by
  obtain ⟨visit, hres, hplace, hprivate⟩ := exists_private_own baseUrl loginPath hx
  have hlogin : x.path ≠ "/login" := fun h => absurd hx (by simp [h])
  refine hop_own_permitted ht hres hplace hprivate.stays ?_ hlogin
  rw [permits_iff, hprivate.asks, hplace]
  by_cases husers : x.path = "/users"
  · simp [husers, hrole husers]
  · simp [husers]

theorem hop_own_denied (ht : who.token ≠ none) (hrole : who.role ≠ some "admin")
    (hx : x.path = "/users") :
    (own baseUrl loginPath).hop who x = .moved ⟨"/dashboard", []⟩ true := by
  obtain ⟨visit, hres, rfl, hprivate⟩ :=
    exists_private_own baseUrl loginPath (x := x) (by simp [hx])
  have hdenied : permits visit.requiredRoles who.role = false := by
    rw [← Bool.not_eq_true, permits_iff, hprivate.asks, if_pos hx]
    simpa using hrole
  have hwho : who.isAuthenticated = true := Snapshot.isAuthenticated_iff.2 ht
  exact hop_of_guard hres hprivate.stays
    ((Guard.decide_eq_toDefault_iff _ _ _).2 ⟨fun _ => hwho, hdenied⟩) (location?_own _)

theorem hop_own_login (ht : who.token ≠ none) (hx : x.path = "/login") :
    (own baseUrl loginPath).hop who x = .moved ⟨"/", []⟩ false := by
  obtain ⟨visit, hres, rfl, hopen⟩ :=
    exists_open_own baseUrl loginPath (x := x) (by simp [hx])
  have hwho : who.isAuthenticated = true := Snapshot.isAuthenticated_iff.2 ht
  have hpermits : permits visit.requiredRoles who.role = true := by
    simp [permits, hopen.common]
  exact hop_of_guard hres hopen.stays (Guard.decide_eq_toRoot _ hpermits hx hwho)
    (location?_own _)

theorem follow_own_signedOut (ht : who.token = none) (hx : x.path ∈ applicationTable.paths) :
    (own baseUrl loginPath).follow who target false x (redirectLimit + 1) =
      (.ok (ownPlace who x), false) := by
  have hrest (query : List (String × String)) : (own baseUrl loginPath).hop who
      ⟨"/login", query⟩ = .landed ⟨"/login", query⟩ := hop_own_open ht (by simp)
  rw [redirectLimit]
  by_cases hopen : x.path = "/login" ∨ x.path = "/register"
  · rw [follow_of_landed (hop_own_open ht (by simpa using hopen)), ownPlace, if_pos ht, if_pos hopen]
  by_cases hroot : x.path = "/"
  · rw [follow_of_moved (hop_own_root hroot), follow_of_moved (hop_own_private ht (by simp)),
      follow_of_landed (hrest _), ownPlace, if_pos ht, if_neg hopen, if_pos hroot]
    rfl
  · have hprivate := mem_private hx (by simpa using hopen) hroot
    rw [follow_of_moved (hop_own_private ht hprivate), follow_of_landed (hrest _), ownPlace,
      if_pos ht, if_neg hopen, if_neg hroot]
    rfl

theorem follow_own_signedIn (ht : who.token ≠ none) (hx : x.path ∈ applicationTable.paths) :
    (own baseUrl loginPath).follow who target false x (redirectLimit + 1) =
      (.ok (ownPlace who x), isDeniedUsers who x) := by
  have hrest (query : List (String × String)) : (own baseUrl loginPath).hop who
      ⟨"/dashboard", query⟩ = .landed ⟨"/dashboard", query⟩ :=
    hop_own_visited ht (by simp) (by simp)
  rw [redirectLimit]
  by_cases hlogin : x.path = "/login"
  · rw [follow_of_moved (hop_own_login ht hlogin), follow_of_moved (hop_own_root rfl),
      follow_of_landed (hrest _)]
    simp [ownPlace, isDeniedUsers, ht, hlogin]
  by_cases hroot : x.path = "/"
  · rw [follow_of_moved (hop_own_root hroot), follow_of_landed (hrest _)]
    simp [ownPlace, isDeniedUsers, ht, hroot]
  by_cases hdenied : x.path = "/users" ∧ who.role ≠ some "admin"
  · rw [follow_of_moved (hop_own_denied ht hdenied.2 hdenied.1), follow_of_landed (hrest _)]
    simp [ownPlace, isDeniedUsers, ht, hdenied, Option.isSome_iff_ne_none]
  have hrole : x.path = "/users" → who.role = some "admin" := by
    intro husers
    exact Classical.not_not.1 fun hother => hdenied ⟨husers, hother⟩
  have hpermitted : isDeniedUsers who x = false := by
    by_cases husers : x.path = "/users"
    · simp [isDeniedUsers, hrole husers]
    · simp [isDeniedUsers, husers]
  have hlanded : (own baseUrl loginPath).hop who x = .landed x := by
    by_cases hregister : x.path = "/register"
    · exact hop_own_register ht hregister
    · exact hop_own_visited ht (mem_private hx (by simp [hlogin, hregister]) hroot) hrole
  rw [follow_of_landed hlanded, hpermitted, ownPlace, if_neg ht, if_neg hlogin, if_neg hroot,
    if_neg hdenied]

theorem hopsOf_own (baseUrl loginPath target : String) (s : State) :
    (own baseUrl loginPath).hopsOf target s =
      if (Location.parse target).path ∈ applicationTable.paths then
        (.ok (ownPlace s.snapshot (Location.parse target)),
          isDeniedUsers s.snapshot (Location.parse target))
      else (.error (.notFound (Location.parse target).fullPath), false) := by
  by_cases hknown : (Location.parse target).path ∈ applicationTable.paths
  · rw [if_pos hknown]
    by_cases ht : s.snapshot.token = none
    · have hpermitted : isDeniedUsers s.snapshot (Location.parse target) = false := by
        simp [isDeniedUsers, ht]
      rw [hpermitted]
      exact follow_own_signedOut ht hknown
    · exact follow_own_signedIn ht hknown
  · have hcanonical := (Location.isCanonical_parse target).canonical
    have hres : (own baseUrl loginPath).table.resolve (Location.parse target) = none := by
      rwa [RouteTable.resolve_eq_none_iff, hcanonical]
    have hunknown : (own baseUrl loginPath).hop s.snapshot (Location.parse target) = .unknown := by
      rw [hop, hres]
    rw [if_neg hknown]
    exact follow_of_unknown hunknown

/-- The application's own routes never lead round in a circle. A path that is none of theirs is
refused under the location asked for; every other one leads to its place, whatever the session
holds. Somebody with a session who is no administrator and asks for the page of users is told so
once, and nobody is told anything else. -/
theorem navigate_own (baseUrl loginPath target : String) (s : State) :
    (∀ asked, ((own baseUrl loginPath).navigate target s).1 ≠ .error (.redirectLoop asked)) ∧
    (∀ path, ((own baseUrl loginPath).navigate target s).1 = .error (.notFound path) ↔
      (Location.parse target).path ∉ applicationTable.paths ∧
        path = (Location.parse target).fullPath) ∧
    ((Location.parse target).path ∈ applicationTable.paths →
      ((own baseUrl loginPath).navigate target s).1 =
        .ok (ownPlace s.snapshot (Location.parse target))) ∧
    ((own baseUrl loginPath).navigate target s).2.trace = s.trace ++
      if isDeniedUsers s.snapshot (Location.parse target) then [.notified unauthorizedMessage]
      else [] := by
  rw [trace_navigate, navigate_eq, hopsOf_own]
  by_cases hknown : (Location.parse target).path ∈ applicationTable.paths
  · simp [hknown]
  · have hpermitted : isDeniedUsers s.snapshot (Location.parse target) = false := by
      have hother : (Location.parse target).path ≠ "/users" := fun h => hknown (h ▸ by decide)
      simp [isDeniedUsers, hother]
    simp [hknown, hpermitted, eq_comm]

theorem navigate_own_member :
    ((own "" "/login").navigate "/users/?page=2" member).1 = .ok ⟨"/dashboard", []⟩ ∧
    ((own "" "/login").navigate "/users/?page=2" member).2.trace =
      [.notified unauthorizedMessage] ∧
    ((own "" "/login").navigate "help?page=2" member).1 = .error (.notFound "/help?page=2") := by
  obtain ⟨-, -, hplace, htrace⟩ := navigate_own "" "/login" "/users/?page=2" member
  obtain ⟨-, hrefused, -, -⟩ := navigate_own "" "/login" "help?page=2" member
  refine ⟨(hplace (by decide)).trans rfl, htrace.trans rfl, (hrefused _).2 ⟨by decide, rfl⟩⟩

end ClientAccess.Application
