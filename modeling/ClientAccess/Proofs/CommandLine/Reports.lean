import ClientAccess.CommandLine.Run
import ClientAccess.Proofs.History.Notice
import ClientAccess.Proofs.Navigation.OwnRoutes

/-! What a run tells its user. Two of them can tell: the application while the command runs, and the
program when it has ended. A failure is told by exactly one of them. A run that succeeds is silent,
except that a visitor who is refused a page for want of a role is told so on being sent elsewhere. -/
namespace ClientAccess

namespace CommandLine

open Application

/-- What the application owes the user for a result, and for a denial on the way to it. -/
def due (denied : Bool) : Except Failure String → List String
  | .error failure => if failure.isReported then [failure.message] else []
  | .ok _ => if denied then [unauthorizedMessage] else []

namespace Failure

/-- What fails before the command has done anything: the settings, or the arguments of a call. -/
def IsLocal : Failure → Prop
  | settings _ | payload _ | queryPair _ => True
  | call _ | signIn _ | navigation _ => False

theorem IsLocal.not_reported {failure : Failure} (h : failure.IsLocal) :
    failure.isReported = false := by
  cases failure with
  | call refusal => cases h
  | signIn fault => cases h
  | navigation refusal => cases h
  | settings fault | payload fault | queryPair text => rfl

end Failure

variable {method path : String} {query : List String} {data : Option String}

theorem isLocal_of_addPairs {c : Call} {failure : Failure}
    (h : addPairs c query = .error failure) : failure.IsLocal := by
  induction query generalizing c with
  | nil => cases h
  | cons text rest ih =>
    unfold addPairs at h
    split at h
    · exact ih h
    · cases h
      trivial

theorem buildCall_eq (method path : String) (query : List String) (data : Option String) :
    ∃ c, buildCall method path query data = (addPairs c query).bind fun c =>
      match data with
      | none => .ok c
      | some text => ((Json.read text).mapError .payload).map c.withBody := by
  refine ⟨_, congrArg (Except.bind _) (funext fun c => ?_)⟩
  cases data with
  | none => rfl
  | some text =>
    simp only
    cases Json.read text <;> rfl

theorem isLocal_of_buildCall {failure : Failure}
    (h : buildCall method path query data = .error failure) : failure.IsLocal := by
  obtain ⟨c, hcall⟩ := buildCall_eq method path query data
  rw [hcall] at h
  cases hpairs : addPairs c query with
  | error fault =>
    rw [hpairs] at h
    cases h
    exact isLocal_of_addPairs hpairs
  | ok c =>
    rw [hpairs] at h
    cases data with
    | none => cases h
    | some text =>
      simp only [Except.bind] at h
      cases hbody : Json.read text with
      | ok body =>
        rw [hbody] at h
        cases h
      | error fault =>
        rw [hbody] at h
        cases h
        trivial

def Command.isRefusedByRole (who : Snapshot) : Command → Bool
  | .navigate path =>
    (applicationTable.resolvePath path).any fun visit =>
      Guard.standard.decide visit who == .toDefault
  | _ => false

/-- The same of a run, whose visitor is whoever the session file tells of. -/
def isRefusedByRole (env : Environment) (disk : Disk) (i : Invocation) : Bool :=
  match settingsOf env i with
  | .error _ => false
  | .ok s => i.command.isRefusedByRole (Session.snapshot (Store.openFile disk s.sessionFile))

theorem isRefusedByRole_navigate (who : Snapshot) (path : String) :
    (Command.navigate path).isRefusedByRole who = isDeniedUsers who (Location.parse path) := by
  by_cases hknown : (Location.parse path).path ∈ applicationTable.paths
  · obtain ⟨visit, hres, hroles, hneeds⟩ := exists_visit_own "" "" hknown
    have hvisit : applicationTable.resolvePath path = some visit := hres
    rw [Command.isRefusedByRole, hvisit, Option.any_some, Bool.eq_iff_iff, beq_iff_eq,
      Guard.decide_eq_toDefault_iff, hroles]
    by_cases husers : (Location.parse path).path = "/users"
    · cases hrole : who.role <;>
        simp [isDeniedUsers, husers, hneeds husers, Snapshot.isAuthenticated, permits, hrole]
    · simp [isDeniedUsers, husers, permits]
  · have hother : (Location.parse path).path ≠ "/users" := fun h => hknown (h ▸ by decide)
    have hres : applicationTable.resolvePath path = none := by
      rwa [RouteTable.resolvePath, RouteTable.resolve_eq_none_iff,
        (Location.isCanonical_parse path).canonical]
    simp [Command.isRefusedByRole, hres, isDeniedUsers, hother]

theorem Outcome.notices_eq (o : Outcome) : o.notices = o.state.notices := by
  refine congrArg (List.filterMap · o.state.trace) (funext fun effect => ?_)
  cases effect <;> rfl

theorem due_call (r : Except Refusal Json) :
    due false ((r.map Json.pretty).mapError .call) =
      ((Refusal.ofCall? r).map Refusal.message).toList := by
  cases r <;> rfl

theorem due_navigation (denied : Bool) (r : Except Navigation.Refusal Location) :
    due denied ((r.map Location.fullPath).mapError .navigation) =
      match r with
      | .ok _ => if denied then [unauthorizedMessage] else []
      | .error _ => [] := by
  cases r <;> rfl

theorem notices_ofSignIn {r : Except SignInFault Profile × State}
    (h : r.2.notices = ((Refusal.ofSignIn? r.1).map Refusal.message).toList) :
    (ofSignIn r).notices = due false (ofSignIn r).result := by
  rw [Outcome.notices_eq]
  refine h.trans ?_
  obtain ⟨result, s⟩ := r
  cases result with
  | ok user => rfl
  | error fault => cases fault <;> rfl

theorem notices_runCommand (baseUrl : String) (transport : Transport) (store : Store)
    (command : Command) :
    (runCommand (own baseUrl "/login") transport (.ofStore store) command).notices =
      due (command.isRefusedByRole (Session.snapshot store))
        (runCommand (own baseUrl "/login") transport (.ofStore store) command).result := by
  have hlogin : applicationTable.resolvePath "/login" = some loginDoor := rfl
  have hdoor : (own baseUrl "/login").table.resolvePath (own baseUrl "/login").loginPath =
    some loginDoor := hlogin
  have hopen : loginDoor.IsOpen := ⟨rfl, rfl, rfl⟩
  cases command with
  | login credentials => exact notices_ofSignIn (notices_enroll _ hdoor hopen _ _)
  | register registration => exact notices_ofSignIn (notices_enroll _ hdoor hopen _ _)
  | logout =>
    simp only [Outcome.notices_eq, runCommand, logout]
    exact notices_push_door hdoor hopen (Session.token?_ending store)
  | whoami =>
    simp only [Outcome.notices_eq, runCommand, due, Command.isRefusedByRole]
    rfl
  | call method path query data =>
    simp only [Outcome.notices_eq, runCommand, Command.isRefusedByRole]
    cases hbuild : buildCall method path query data with
    | error failure =>
      simp only [due, (isLocal_of_buildCall hbuild).not_reported]
      rfl
    | ok c =>
      simp only [due_call]
      exact notices_send transport hdoor hopen c
  | navigate path =>
    simp only [Outcome.notices_eq, isRefusedByRole_navigate, runCommand]
    -- The denial and the result are read off the same hops.
    rw [notices_navigate, navigate_eq, hopsOf_own, due_navigation]
    by_cases hknown : (Location.parse path).path ∈ applicationTable.paths
    · simp only [if_pos hknown]
      exact List.nil_append _
    · simp only [if_neg hknown]
      rfl

theorem notices_run (env : Environment) (disk : Disk) (transport : Transport) (i : Invocation) :
    (run env disk transport i).notices =
      due (isRefusedByRole env disk i) (run env disk transport i).result := by
  unfold run isRefusedByRole
  cases settingsOf env i with
  | error fault => rfl
  | ok s => exact notices_runCommand (Text.dropSlashes s.baseUrl) transport _ i.command

/-- Whatever the environment and the arguments, whatever the session file holds and whatever becomes
of the request: the message of a failure reaches the user once. It is the application that tells it
if a call was refused, and the program otherwise. If nothing fails the user is told nothing, except
for the one message to a visitor whom the guard refuses the page asked for, for want of a role. -/
theorem run_reports_once (env : Environment) (disk : Disk) (transport : Transport)
    (i : Invocation) :
    (∀ failure, (run env disk transport i).result = .error failure →
      (run env disk transport i).notices =
        (if failure.isReported then [failure.message] else []) ∧
      (run env disk transport i).reports = [failure.message] ∧
      errorLines (run env disk transport i).reports = "error: " ++ failure.message ++ "\n") ∧
    (∀ text, (run env disk transport i).result = .ok text →
      (run env disk transport i).reports =
        if isRefusedByRole env disk i then [unauthorizedMessage] else []) := by
  have hnotices := notices_run env disk transport i
  constructor
  · intro failure hresult
    rw [hresult] at hnotices
    have hreports : (run env disk transport i).reports = [failure.message] := by
      simp only [Outcome.reports, hresult, hnotices, due]
      cases failure.isReported <;> rfl
    refine ⟨hnotices, hreports, ?_⟩
    rw [hreports]
    simp [errorLines, String.join]
  · intro text hresult
    rw [hresult] at hnotices
    simp only [Outcome.reports, hresult]
    exact hnotices

def bareEnvironment : Environment := fun _ => none

def namelessSession : Disk where
  nodes := [([".authgate-session.json"], .file "\x7b\"auth_token\":\"t\"\x7d".toUTF8)]
  working := []

def unreachable : Transport := fun _ => .error (.noResponse "timeout")

theorem three_runs_reported :
    (run bareEnvironment namelessSession unreachable ⟨none, none, .login ⟨"ann", "pw"⟩⟩).notices =
      ["network error, check your connection"] ∧
    errorLines (run bareEnvironment namelessSession unreachable
      ⟨none, none, .login ⟨"ann", "pw"⟩⟩).reports =
        "error: network error, check your connection\n" ∧
    (run bareEnvironment namelessSession unreachable
      ⟨none, none, .call "get" "/api/orders" ["page"] none⟩).notices = [] ∧
    (run bareEnvironment namelessSession unreachable
      ⟨none, none, .call "get" "/api/orders" ["page"] none⟩).reports =
        ["invalid query pair `page`; expected key=value"] ∧
    (run bareEnvironment namelessSession unreachable ⟨none, none, .navigate "/users"⟩).reports =
      [unauthorizedMessage] := by
  obtain ⟨hlogin, -⟩ := run_reports_once bareEnvironment namelessSession unreachable
    ⟨none, none, .login ⟨"ann", "pw"⟩⟩
  obtain ⟨hcall, -⟩ := run_reports_once bareEnvironment namelessSession unreachable
    ⟨none, none, .call "get" "/api/orders" ["page"] none⟩
  obtain ⟨-, hvisit⟩ := run_reports_once bareEnvironment namelessSession unreachable
    ⟨none, none, .navigate "/users"⟩
  obtain ⟨htold, -, hline⟩ := hlogin (.signIn (.refused (.network _))) rfl
  obtain ⟨hsilent, hmessage, -⟩ := hcall (.queryPair "page") rfl
  exact ⟨htold, hline, hsilent, hmessage, (hvisit "/dashboard" rfl).trans rfl⟩

end CommandLine

end ClientAccess
