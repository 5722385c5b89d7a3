import ClientAccess.Proofs.Navigation.WayBack
import ClientAccess.Proofs.Route.Inheritance

/-! Influence. Of a session the guard sees whether there is a token and which role the user has, and
of a chain whether some record needs a session and which roles are listed. Sessions that agree in
this are taken to the same places with the same notices, whatever else is stored, wherever the
application is and whatever it has done before. -/
namespace ClientAccess

structure Snapshot.Alike (a b : Snapshot) : Prop where
  authenticated : a.isAuthenticated = b.isAuthenticated
  role : a.role = b.role

/-- Records that ask the same of a visitor. Neither the order of the roles counts nor their
number. -/
structure Record.Alike (a b : Record) : Prop where
  session : a.requiresAuth = b.requiresAuth
  roles : ∀ role, role ∈ a.roles ↔ role ∈ b.roles

/-- Chains whose records are alike, in any order and however often each is repeated. -/
structure Chain.Alike (a b : Chain) : Prop where
  there : ∀ x ∈ a, ∃ y ∈ b, x.Alike y
  back : ∀ y ∈ b, ∃ x ∈ a, x.Alike y

theorem Record.Alike.symm {a b : Record} (h : a.Alike b) : b.Alike a :=
  ⟨h.session.symm, fun role => (h.roles role).symm⟩

namespace Chain.Alike

variable {a b : Chain}

theorem symm (h : a.Alike b) : b.Alike a where
  there y hy := by
    obtain ⟨x, hx, hlike⟩ := h.back y hy
    exact ⟨x, hx, hlike.symm⟩
  back x hx := by
    obtain ⟨y, hy, hlike⟩ := h.there x hx
    exact ⟨y, hy, hlike.symm⟩

theorem requiresAuth_of (h : a.Alike b) (ha : a.requiresAuth = true) : b.requiresAuth = true := by
  obtain ⟨x, hx, hneeds⟩ := List.any_eq_true.1 ha
  obtain ⟨y, hy, hlike⟩ := h.there x hx
  exact List.any_eq_true.2 ⟨y, hy, hlike.session ▸ hneeds⟩

theorem requiresAuth_eq (h : a.Alike b) : a.requiresAuth = b.requiresAuth :=
  Bool.eq_iff_iff.2 ⟨h.requiresAuth_of, h.symm.requiresAuth_of⟩

theorem mem_requiredRoles_of (h : a.Alike b) {role : String} (ha : role ∈ a.requiredRoles) :
    role ∈ b.requiredRoles := by
  rw [mem_requiredRoles, List.mem_flatMap] at ha ⊢
  obtain ⟨x, hx, hlisted⟩ := ha
  obtain ⟨y, hy, hlike⟩ := h.there x hx
  exact ⟨y, hy, (hlike.roles role).1 hlisted⟩

theorem mem_requiredRoles_iff (h : a.Alike b) (role : String) :
    role ∈ a.requiredRoles ↔ role ∈ b.requiredRoles :=
  ⟨h.mem_requiredRoles_of, h.symm.mem_requiredRoles_of⟩

end Chain.Alike

theorem permits_congr {a b : List String} (h : ∀ role, role ∈ a ↔ role ∈ b)
    (role : Option String) : permits a role = permits b role := by
  have hasks : a ≠ [] ↔ b ≠ [] := by
    simp only [ne_eq, List.eq_nil_iff_forall_not_mem, h]
  rw [Bool.eq_iff_iff, permits_iff, permits_iff, hasks]
  simp only [h]

theorem Guard.decide_congr (g : Guard) {a b : Match} {who who' : Snapshot}
    (hplace : a.location = b.location) (hauth : a.requiresAuth = b.requiresAuth)
    (hroles : ∀ role, role ∈ a.requiredRoles ↔ role ∈ b.requiredRoles)
    (hwho : who.Alike who') : g.decide a who = g.decide b who' := by
  simp only [decide, Match.fullPath, hplace, hauth, hwho.authenticated, hwho.role,
    permits_congr hroles]

namespace Application

variable {app : Application} {who who' : Snapshot}

theorem hop_alike (h : who.Alike who') (x : Location) : app.hop who x = app.hop who' x := by
  have hdecide : ∀ visit, app.guard.decide visit who = app.guard.decide visit who' :=
    fun visit => app.guard.decide_congr rfl rfl (fun _ => Iff.rfl) h
  simp only [hop, hdecide]

theorem follow_alike (h : who.Alike who') (target : String) (denied : Bool) (x : Location)
    (hops : Nat) :
    app.follow who target denied x hops = app.follow who' target denied x hops := by
  induction hops generalizing denied x with
  | zero => rfl
  | succ hops ih =>
    rw [follow, follow, hop_alike h]
    cases app.hop who' x with
    | unknown => rfl
    | landed place => rfl
    | moved next d => exact ih (denied || d) next

/-- Two states in which either both have a token or neither has, and in which the user read has the
same role, if one is read and has one, cannot be told apart by a navigation: it comes to the same
result, tells the same, and where it ends in a place both are there. Nor can the guard tell apart
two chains for one location that differ only in how often and in which order the records stand in
them and the roles in each record. -/
theorem navigate_sees_token_and_role (app : Application) :
    (∀ (target : String) (s t : State), s.snapshot.Alike t.snapshot →
      (app.navigate target s).1 = (app.navigate target t).1 ∧
      (∃ told : List Effect, (app.navigate target s).2.trace = s.trace ++ told ∧
        (app.navigate target t).2.trace = t.trace ++ told) ∧
      ∀ place, (app.navigate target s).1 = .ok place →
        (app.navigate target s).2.current = some place ∧
        (app.navigate target t).2.current = some place) ∧
    ∀ (location : Location) (a b : Chain) (who who' : Snapshot), a.Alike b → who.Alike who' →
      app.guard.decide ⟨location, a⟩ who = app.guard.decide ⟨location, b⟩ who' := by
  constructor
  · intro target s t halike
    have hhops : app.hopsOf target s = app.hopsOf target t :=
      follow_alike halike target false (Location.parse target) (redirectLimit + 1)
    have hresult : (app.navigate target s).1 = (app.navigate target t).1 := by
      rw [navigate_eq, navigate_eq, hhops]
    refine ⟨hresult, ⟨_, trace_navigate app target s, ?_⟩, ?_⟩
    · rw [trace_navigate, hhops]
    · intro place hok
      rw [current_navigate, current_navigate, ← hresult, hok]
      exact ⟨rfl, rfl⟩
  · intro location a b who who' hchain hwho
    exact app.guard.decide_congr rfl hchain.requiresAuth_eq hchain.mem_requiredRoles_iff hwho

def colleague : State where
  store := ⟨.single, .ofList [("theme", "dark"), (Session.tokenKey, "x-9"),
    (Session.userKey, Profile.encode ⟨"7", some "member", .ofList [("age", .int 40)]⟩)], .empty⟩
  current := some ⟨"/orders", [("page", "2")]⟩
  trace := [.pushed "/orders?page=2", .notified "access denied"]

def rootRecord : Record := ⟨"/", none, true, [], some "/dashboard"⟩

def usersRecord (roles : List String) : Record := ⟨"/users", none, false, roles, none⟩

theorem member_and_colleague_denied :
    member.snapshot.Alike colleague.snapshot ∧
    (standard.navigate "/users" member).1 = .ok ⟨"/dashboard", []⟩ ∧
    (standard.navigate "/users" colleague).2.current = some ⟨"/dashboard", []⟩ ∧
    Chain.Alike [rootRecord, usersRecord ["admin", "owner"]]
      [usersRecord ["owner", "admin", "owner"], rootRecord, rootRecord] ∧
    standard.guard.decide ⟨⟨"/users", []⟩,
        [usersRecord ["owner", "admin", "owner"], rootRecord, rootRecord]⟩ colleague.snapshot =
      .toDefault := by
  have hmember : member.snapshot.role = some "member" := rfl
  have hcolleague : colleague.snapshot.role = some "member" := rfl
  have halike : member.snapshot.Alike colleague.snapshot :=
    ⟨rfl, hmember.trans hcolleague.symm⟩
  have hroot : rootRecord.Alike rootRecord := ⟨rfl, fun _ => Iff.rfl⟩
  have husers : (usersRecord ["admin", "owner"]).Alike (usersRecord ["owner", "admin", "owner"]) :=
    ⟨rfl, by grind [usersRecord]⟩
  have hchain : Chain.Alike [rootRecord, usersRecord ["admin", "owner"]]
      [usersRecord ["owner", "admin", "owner"], rootRecord, rootRecord] :=
    ⟨by simp [hroot, husers], by simp [hroot, husers]⟩
  obtain ⟨hnavigate, hdecide⟩ := navigate_sees_token_and_role standard
  obtain ⟨-, -, hplace⟩ := hnavigate "/users" member colleague halike
  have hok : (standard.navigate "/users" member).1 = .ok ⟨"/dashboard", []⟩ := rfl
  exact ⟨halike, hok, (hplace _ hok).2, hchain,
    (hdecide _ _ _ _ _ hchain halike).symm.trans rfl⟩

end Application

end ClientAccess
