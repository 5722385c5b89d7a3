import ClientAccess.Proofs.History.Place
import ClientAccess.Proofs.Location.RoundTrip
import ClientAccess.Proofs.Navigation.Walk

/-! The way back. A visitor without a session who asks for a page that needs one lands on the sign-in
page, which is told the page in its query. The page is found again in the address of the sign-in
page, and whoever goes there later comes out where the first target would lead under that session. -/
namespace ClientAccess.Application

/-- The records of the locations send every visitor on, a number of times; the session has no say
in it. -/
inductive Forwards (app : Application) : Nat → Location → Location → Prop where
  | here (x : Location) : Forwards app 0 x x
  | on {n : Nat} {x next y : Location} {visit : Match} {redirect : String}
    (known : app.table.resolve x = some visit)
    (sends : visit.record?.bind (·.redirect) = some redirect) (onward : LeadsOn redirect x next)
    (more : Forwards app n next y) : Forwards app (n + 1) x y

variable {app : Application} {x y : Location} {n : Nat} {visit door : Match} {who : Snapshot}

theorem Forwards.walk (h : app.Forwards n x y) (who : Snapshot) : app.Walk who n x y := by
  induction h with
  | here x => exact .rest x
  | on known sends onward more ih => exact .move (.byRecord known sends onward) ih

theorem LeadsOn.isCanonical {redirect : String} (h : LeadsOn redirect x y) : y.IsCanonical :=
  (Location.isCanonical_parse redirect).of_path h.path

theorem Forwards.isCanonical (h : app.Forwards n x y) (hx : x.IsCanonical) : y.IsCanonical := by
  induction h with
  | here x => exact hx
  | on known sends onward more ih => exact ih onward.isCanonical

def signInFor (app : Application) (asked : Location) : Location :=
  (Location.ofPath app.guard.loginPath).addQuery "redirect" asked.fullPath

theorem redirects_signIn (hx : x.IsCanonical) (hvisit : app.table.resolve x = some visit)
    (hstays : visit.record?.bind (·.redirect) = none) (hauth : visit.requiresAuth = true)
    (ht : who.token = none) : app.Redirects who x (app.signInFor x) := by
  have hplace : visit.location = x := RouteTable.location_of_resolve hvisit hx.canonical
  have hdecide : app.guard.decide visit who = .toLogin x.fullPath := by
    rw [Guard.decide_eq_toLogin _ hauth ht, Match.fullPath, hplace]
  refine .byGuard hvisit hstays ?_
  rw [hdecide]
  rfl

theorem stops_signIn (hdoor : app.table.resolve (.ofPath app.guard.loginPath) = some door)
    (hopen : door.IsOpen) (ht : who.token = none) (x : Location) :
    app.Stops who (app.signInFor x) (.ok (app.signInFor x)) := by
  have hknown : app.table.resolve (app.signInFor x) = some ⟨app.signInFor x, door.chain⟩ :=
    RouteTable.resolve_of_path hdoor rfl (Path.normalize_normalize app.guard.loginPath)
  have hopen' : Match.IsOpen ⟨app.signInFor x, door.chain⟩ := hopen.of_chain rfl
  exact .landed hknown (Admits.of_isOpen hopen' ht)

theorem navigate_fullPath_of_forwards {target : String} {s : State}
    {r : Except Navigation.Refusal Location} (h : app.Forwards n (Location.parse target) y)
    (hr : (app.navigate target s).1 = r) (hend : ∀ asked, r ≠ .error (.redirectLoop asked)) :
    (app.navigate y.fullPath s).1 = r := by
  have hy : Location.parse y.fullPath = y :=
    Location.parse_fullPath (h.isCanonical (Location.isCanonical_parse target))
  rcases navigate_eq_iff.1 hr with ⟨m, hm, z, hwalk, hstops⟩ | ⟨hloop, -⟩
  · obtain ⟨k, hk, hrest⟩ := (h.walk s.snapshot).rest_of_stops hwalk hstops
    rw [← hy] at hrest
    exact navigate_of_stops hrest hstops (by omega)
  · exact absurd hloop (hend target)

/-- A visitor without a session is forwarded by at most seven records to a page that needs one. The
visitor then lands on the sign-in page, if everybody may visit it, and there finds the way back to
that page in the query, also after the address has been written and read. Under whatever session the
way back is taken later, it leads where the target leads: to the same place, or to the same unknown
path. -/
theorem navigate_keeps_way_back (app : Application) (door : Match)
    (hquery : '?' ∉ app.guard.loginPath.toList) (hfragment : '#' ∉ app.guard.loginPath.toList)
    (hdoor : app.table.resolvePath app.guard.loginPath = some door) (hopen : door.IsOpen)
    (s : State) (ht : Session.token? s.store = none) (target : String) (n : Nat) (hn : n ≤ 7)
    (asked : Location) (hforwards : app.Forwards n (Location.parse target) asked) (visit : Match)
    (hvisit : app.table.resolve asked = some visit)
    (hstays : visit.record?.bind (·.redirect) = none) (hauth : visit.requiresAuth = true) :
    ∃ landed wayBack, (app.navigate target s).1 = .ok landed ∧
      landed.path = Path.normalize app.guard.loginPath ∧
      landed.value? "redirect" = some wayBack ∧ Location.parse wayBack = asked ∧
      visit.location = asked ∧
      (Location.parse landed.fullPath).value? "redirect" = some wayBack ∧
      ∀ later : State,
        (∀ place, (app.navigate target later).1 = .ok place →
          (app.navigate wayBack later).1 = .ok place) ∧
        ∀ path, (app.navigate target later).1 = .error (.notFound path) →
          (app.navigate wayBack later).1 = .error (.notFound path) := by
  have hwho : s.snapshot.token = none := ht
  have hasked : asked.IsCanonical := hforwards.isCanonical (Location.isCanonical_parse target)
  have hlogin : (app.signInFor asked).IsCanonical :=
    (Location.isCanonical_ofPath hquery hfragment).of_path rfl
  have hfound : (app.signInFor asked).value? "redirect" = some asked.fullPath := rfl
  have hwalk : app.Walk s.snapshot (n + 1) (Location.parse target) (app.signInFor asked) := by
    have hlast := Walk.move (redirects_signIn hasked hvisit hstays hauth hwho) (.rest _)
    exact (hforwards.walk s.snapshot).append hlast
  have hstops : app.Stops s.snapshot (app.signInFor asked) (.ok (app.signInFor asked)) := by
    rw [RouteTable.resolvePath, Location.parse_of_path hquery hfragment] at hdoor
    exact stops_signIn hdoor hopen hwho asked
  refine ⟨app.signInFor asked, asked.fullPath, navigate_of_stops hwalk hstops (by omega), rfl,
    hfound, Location.parse_fullPath hasked, ?_, ?_, ?_⟩
  · exact RouteTable.location_of_resolve hvisit hasked.canonical
  · rw [Location.parse_fullPath hlogin, hfound]
  · intro later
    constructor
    · intro place hplace
      exact navigate_fullPath_of_forwards hforwards hplace (by simp)
    · intro path hpath
      exact navigate_fullPath_of_forwards hforwards hpath (by simp)

def member : State := .ofStore (Session.establish (.inMemory .empty) "t" ⟨"1", some "member", .empty⟩)

theorem navigate_keeps_tab :
    ∃ landed wayBack,
      (standard.navigate "/?tab=x y" (.ofStore (.inMemory .empty))).1 = .ok landed ∧
      landed.path = "/login" ∧ landed.value? "redirect" = some wayBack ∧
      (standard.navigate wayBack member).1 = .ok ⟨"/dashboard", [("tab", "x y")]⟩ := by
  have hforwards : standard.Forwards 1 (Location.parse "/?tab=x y")
      ⟨"/dashboard", [("tab", "x y")]⟩ := .on rfl rfl (leadsOn_redirected _ _) (.here _)
  obtain ⟨landed, wayBack, hok, hpath, hfound, -, -, -, hlater⟩ :=
    navigate_keeps_way_back standard loginDoor (by decide) (by decide) rfl ⟨rfl, rfl, rfl⟩
      (.ofStore (.inMemory .empty)) rfl "/?tab=x y" 1 (by decide) _ hforwards _ rfl rfl rfl
  have hreached : (standard.navigate "/?tab=x y" member).1 =
      .ok ⟨"/dashboard", [("tab", "x y")]⟩ := rfl
  exact ⟨landed, wayBack, hok, hpath, hfound, (hlater member).1 _ hreached⟩

end ClientAccess.Application
