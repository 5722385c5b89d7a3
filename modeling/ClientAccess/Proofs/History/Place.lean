import ClientAccess.Proofs.History.Event

/-! Where an application can be without a session. Ending a session and going to the sign-in page
belong together: as long as the session is touched only by signing in, by logging out and by calls,
nobody without a token is at a place that needs one. -/
namespace ClientAccess

/-- Everybody may visit: no session and no role is needed, and nobody is sent on. -/
structure Match.IsOpen (visit : Match) : Prop where
  free : visit.requiresAuth = false
  common : visit.requiredRoles = []
  stays : visit.record?.bind (·.redirect) = none

theorem Match.IsOpen.of_chain {a b : Match} (h : a.IsOpen) (hchain : b.chain = a.chain) :
    b.IsOpen := by
  refine ⟨?_, ?_, ?_⟩
  · rw [Match.requiresAuth, hchain]
    exact h.free
  · rw [Match.requiredRoles, hchain]
    exact h.common
  · rw [Match.record?, hchain]
    exact h.stays

/-- What the application does itself; setting or clearing the session by hand is not among it. -/
def Action.isOwn : Action → Bool
  | .establish _ _ | .clear => false
  | _ => true

namespace Application

variable {app : Application} {door : Match} {s : State}

theorem Admits.of_isOpen {who : Snapshot} {visit : Match} (hopen : visit.IsOpen)
    (ht : who.token = none) : app.Admits who visit := by
  refine ⟨hopen.stays, (Guard.decide_eq_proceed_iff app.guard visit who).2 ⟨?_, ?_, ?_⟩⟩
  · simp [hopen.free]
  · simp [permits, hopen.common]
  · simp [Snapshot.isAuthenticated, ht]

/-- An action that ends the session: logging out, or a call refused because it has expired. -/
def Ends (app : Application) (s : State) : Action → Prop
  | .logout => True
  | .send call answer => ∃ m, (app.send (fun _ => answer) call s).1 = .error (.expired m)
  | .login credentials answer =>
    ∃ m, (app.login (fun _ => answer) credentials s).1 = .error (.refused (.expired m))
  | .register registration answer =>
    ∃ m, (app.register (fun _ => answer) registration s).1 = .error (.refused (.expired m))
  | _ => False

/-- Without a token the place, if there is one, is one that needs no session. -/
def Sheltered (app : Application) (s : State) : Prop :=
  Session.token? s.store = none → ∀ place, s.current = some place →
    ∃ visit, app.table.resolve place = some visit ∧ visit.requiresAuth = false

theorem Sheltered.congr {t : State} (h : app.Sheltered s)
    (hstore : t.store = s.store) (hcurrent : t.current = s.current) : app.Sheltered t := by
  intro ht place hplace
  exact h (hstore ▸ ht) place (hcurrent ▸ hplace)

theorem Sheltered.navigate (h : app.Sheltered s) (target : String) :
    app.Sheltered (app.navigate target s).2 := by
  intro ht place hplace
  rw [store_navigate] at ht
  rw [current_navigate] at hplace
  cases hresult : (app.navigate target s).1 with
  | error refusal =>
    rw [hresult] at hplace
    exact h ht place hplace
  | ok there =>
    rw [hresult] at hplace
    cases hplace
    obtain ⟨visit, hres, -, hadmits⟩ := exists_admitted_of_navigate hresult
    exact ⟨visit, hres, hadmits.free_of_no_token ht⟩

theorem Sheltered.push (h : app.Sheltered s) (path : String) : app.Sheltered (app.push path s) :=
  Sheltered.navigate (h.congr rfl rfl : app.Sheltered (s.record (.pushed path))) path

theorem hop_door (hdoor : app.table.resolvePath app.loginPath = some door)
    (hopen : door.IsOpen) (ht : Session.token? s.store = none) :
    app.hop s.snapshot (Location.parse app.loginPath) = .landed door.location := by
  have hadmits : app.Admits s.snapshot door := Admits.of_isOpen hopen ht
  exact (hop_eq_landed_iff app s.snapshot _ _).2 ⟨door, hdoor, hadmits, rfl⟩

theorem current_push_door (hdoor : app.table.resolvePath app.loginPath = some door)
    (hopen : door.IsOpen) (ht : Session.token? s.store = none) :
    (app.push app.loginPath s).current = some door.location := by
  rw [current_push, navigate_of_landed (hop_door hdoor hopen ht)]
  rfl

theorem sheltered_push_door (hdoor : app.table.resolvePath app.loginPath = some door)
    (hopen : door.IsOpen) (ht : Session.token? s.store = none) :
    app.Sheltered (app.push app.loginPath s) := by
  intro _ place hplace
  rw [current_push_door hdoor hopen ht] at hplace
  cases hplace
  exact ⟨door, RouteTable.resolve_location hdoor, hopen.free⟩

theorem current_reject_expired (hdoor : app.table.resolvePath app.loginPath = some door)
    (hopen : door.IsOpen) (message : String) (s : State) :
    (app.reject (.expired message) s).current = some door.location :=
  current_push_door hdoor hopen (Session.token?_ending s.store)

theorem Sheltered.reject (hdoor : app.table.resolvePath app.loginPath = some door)
    (hopen : door.IsOpen) (h : app.Sheltered s) (refusal : Refusal) :
    app.Sheltered (app.reject refusal s) := by
  unfold Application.reject
  cases refusal.isExpired with
  | true => exact sheltered_push_door hdoor hopen (Session.token?_ending s.store)
  | false => exact h.congr rfl rfl

theorem Sheltered.send (hdoor : app.table.resolvePath app.loginPath = some door)
    (hopen : door.IsOpen) (h : app.Sheltered s) (transport : Transport) (call : Call) :
    app.Sheltered (app.send transport call s).2 := by
  have hsent : app.Sheltered (app.sending s call) := h.congr rfl rfl
  rw [send_snd]
  cases (app.answerTo transport s call).outcome with
  | ok value => exact hsent
  | error refusal => exact Sheltered.reject hdoor hopen hsent refusal

theorem Sheltered.enroll (hdoor : app.table.resolvePath app.loginPath = some door)
    (hopen : door.IsOpen) (h : app.Sheltered s) (transport : Transport) (username : String)
    (call : Call) : app.Sheltered (app.enroll transport username call s).2 := by
  have hsent : app.Sheltered (app.sending s call) := h.congr rfl rfl
  rw [enroll_snd]
  cases hgrant : (app.answerTo transport s call).enrolled username with
  | ok grant =>
    -- A granted token is not empty, so there is a session now and nothing to show.
    intro ht
    have hne := (Answer.grantedToken?_of_enrolled hgrant).2
    have htoken := Session.token?_establishing (app.sending s call).store grant.token grant.user
    rw [if_neg hne] at htoken
    exact absurd (htoken.symm.trans ht) (Option.some_ne_none grant.token)
  | error fault =>
    cases fault with
    | refused refusal => exact Sheltered.reject hdoor hopen hsent refusal
    | malformed fault => exact hsent

theorem Sheltered.perform (hdoor : app.table.resolvePath app.loginPath = some door)
    (hopen : door.IsOpen) (h : app.Sheltered s) {a : Action} (hown : a.isOwn = true) :
    app.Sheltered (app.perform s a) := by
  cases a with
  | establish token user => cases hown
  | clear => cases hown
  | login credentials answer => exact Sheltered.enroll hdoor hopen h _ _ _
  | register registration answer => exact Sheltered.enroll hdoor hopen h _ _ _
  | logout => exact sheltered_push_door hdoor hopen (Session.token?_ending s.store)
  | send call answer => exact Sheltered.send hdoor hopen h _ call
  | navigate target => exact h.navigate target
  | push path => exact h.push path
  | evaluate visit =>
    change app.Sheltered (app.evaluate visit s).2
    rcases evaluate_snd app visit s with hsame | hsame
    · rw [hsame]
      exact h
    · rw [hsame]
      exact h.congr rfl rfl

theorem Sheltered.replay (hdoor : app.table.resolvePath app.loginPath = some door)
    (hopen : door.IsOpen) (h : app.Sheltered s) {actions : List Action}
    (hown : ∀ a ∈ actions, a.isOwn = true) : app.Sheltered (app.replay s actions) := by
  induction actions generalizing s with
  | nil => exact h
  | cons a as ih =>
    have hstep := Sheltered.perform hdoor hopen h (hown a List.mem_cons_self)
    exact ih hstep fun b hb => hown b (List.mem_cons_of_mem a hb)

theorem current_enroll_expired (hdoor : app.table.resolvePath app.loginPath = some door)
    (hopen : door.IsOpen) {transport : Transport} {username : String} {call : Call}
    {message : String} (hresult : (app.enroll transport username call s).1 =
      .error (.refused (.expired message))) :
    (app.enroll transport username call s).2.current = some door.location := by
  rw [enroll_fst] at hresult
  rw [enroll_snd]
  cases hgrant : (app.answerTo transport s call).enrolled username with
  | ok grant => simp [hgrant, Except.map] at hresult
  | error fault =>
    have hfault : fault = .refused (.expired message) := by
      simpa [hgrant, Except.map] using hresult
    rw [hfault]
    exact current_reject_expired hdoor hopen message _

theorem current_of_ends (hdoor : app.table.resolvePath app.loginPath = some door)
    (hopen : door.IsOpen) {a : Action} (hends : app.Ends s a) :
    (app.perform s a).current = some door.location := by
  cases a with
  | logout => exact current_push_door hdoor hopen (Session.token?_ending s.store)
  | send call answer =>
    obtain ⟨m, hresult⟩ := hends
    rw [send_fst] at hresult
    change (app.send (fun _ => answer) call s).2.current = _
    rw [send_snd, hresult]
    exact current_reject_expired hdoor hopen m _
  | login credentials answer =>
    obtain ⟨m, hresult⟩ := hends
    exact current_enroll_expired hdoor hopen hresult
  | register registration answer =>
    obtain ⟨m, hresult⟩ := hends
    exact current_enroll_expired hdoor hopen hresult
  | establish token user => cases hends
  | clear => cases hends
  | navigate target => cases hends
  | push path => cases hends
  | evaluate visit => cases hends

/-- An application whose sign-in page is open starts nowhere, with any store, and does what it
likes. Whenever there is no token, it is nowhere or at a place that needs no session; and right
after a session has been ended it is at the sign-in page. -/
theorem sheltered_history (app : Application) (store : Store) (door : Match)
    (hdoor : app.table.resolvePath app.loginPath = some door) (hopen : door.IsOpen)
    (actions : List Action) (hown : ∀ a ∈ actions, a.isOwn = true) :
    (Session.token? (app.replay (.ofStore store) actions).store = none →
      ∀ place, (app.replay (.ofStore store) actions).current = some place →
        ∃ visit, app.table.resolve place = some visit ∧ visit.requiresAuth = false) ∧
    ∀ before a, actions = before ++ [a] → app.Ends (app.replay (.ofStore store) before) a →
      (app.replay (.ofStore store) actions).current = some door.location := by
  have hstart : app.Sheltered (.ofStore store) := by
    intro _ place hplace
    cases hplace
  refine ⟨Sheltered.replay hdoor hopen hstart hown, ?_⟩
  intro before a hsplit hends
  rw [hsplit, replay_append]
  exact current_of_ends hdoor hopen hends

def loginDoor : Match := ⟨⟨"/login", []⟩, [⟨"/login", some "Login", false, [], none⟩]⟩

def userVisit : List Action :=
  [.login ⟨"ann", "pw"⟩
      (.ok ⟨200, some (.obj [("data", .obj [("role", .str "admin"), ("token", .str "t")])])⟩),
    .navigate "/users"]

theorem sheltered_user_visit :
    standard.table.resolvePath standard.loginPath = some loginDoor ∧ loginDoor.IsOpen ∧
    (standard.replay (.ofStore (.inMemory .empty)) userVisit).current = some ⟨"/users", []⟩ ∧
    (standard.replay (.ofStore (.inMemory .empty))
      (userVisit ++ [.send (.get "/api/users") (.ok ⟨401, none⟩)])).current =
        some ⟨"/login", []⟩ := by
  have hdoor : standard.table.resolvePath standard.loginPath = some loginDoor := rfl
  have hopen : loginDoor.IsOpen := ⟨rfl, rfl, rfl⟩
  obtain ⟨-, hend⟩ := sheltered_history standard (.inMemory .empty) loginDoor hdoor hopen
    (userVisit ++ [.send (.get "/api/users") (.ok ⟨401, none⟩)]) (by decide)
  exact ⟨hdoor, hopen, rfl, hend userVisit _ rfl ⟨_, rfl⟩⟩

end Application

end ClientAccess
