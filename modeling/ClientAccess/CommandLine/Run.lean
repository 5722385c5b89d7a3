import ClientAccess.CommandLine
/-! Running an invocation: settings, the session file, then the command. Nothing is printed when a
command fails; the failure is told once, by the application if it was a refused call and by the
program otherwise. -/
namespace ClientAccess.CommandLine

inductive Failure where
  | settings (fault : Settings.Fault)
  | call (refusal : Refusal)
  | signIn (fault : SignInFault)
  | navigation (refusal : Navigation.Refusal)
  | payload (fault : Json.Fault)
  | queryPair (text : String)

namespace Failure

def message : Failure → String
  | settings fault => "configuration error: " ++ fault.message
  | call refusal => refusal.message
  | signIn fault => fault.message
  | navigation refusal => refusal.message
  | payload fault => "invalid JSON payload: " ++ fault.message
  | queryPair text => "invalid query pair `" ++ text ++ "`; expected key=value"

def isReported : Failure → Bool
  | call _ | signIn (.refused _) => true
  | _ => false

end Failure

structure Outcome where
  result : Except Failure String
  state : State

namespace Outcome

def notices (o : Outcome) : List String :=
  o.state.trace.filterMap fun
    | .notified message => some message
    | _ => none

def reports (o : Outcome) : List String :=
  match o.result with
  | .ok _ => o.notices
  | .error failure => if failure.isReported then o.notices else o.notices ++ [failure.message]

def printed (o : Outcome) : String :=
  match o.result with
  | .ok text => text ++ "\n"
  | .error _ => ""

def exitCode (o : Outcome) : Nat :=
  match o.result with
  | .ok _ => 0
  | .error _ => 1

end Outcome

def errorLines (messages : List String) : String :=
  String.join (messages.map fun m => "error: " ++ m ++ "\n")

/-- The settings of a run: the environment's, unless the invocation has its own. -/
def settingsOf (env : Environment) (i : Invocation) : Except Settings.Fault Settings := do
  let s ← Settings.ofEnvironment env
  let baseUrl := match i.baseUrl with
    | some url => Settings.resolveBaseUrl (some url) s.production
    | none => s.baseUrl
  return { s with baseUrl, sessionFile := i.sessionFile.getD s.sessionFile }

def application (s : Settings) : Application :=
  .ofBaseUrl applicationTable .standard s.baseUrl "/login"

def addPairs (c : Call) : List String → Except Failure Call
  | [] => .ok c
  | text :: rest =>
    match Text.cutFirst '=' text.toList with
    | some (key, value) => addPairs (c.addQuery (String.ofList key) (String.ofList value)) rest
    | none => .error (.queryPair text)

/-- The call of a command: pairs are looked at before the payload. -/
def buildCall (method path : String) (query : List String) (data : Option String) :
    Except Failure Call := do
  let c := match method with
    | "post" => Call.post path
    | "put" => Call.put path
    | "delete" => Call.delete path
    | _ => Call.get path
  let c ← addPairs c query
  match data with
  | none => return c
  | some text =>
    match Json.read text with
    | .ok body => return c.withBody body
    | .error fault => throw (.payload fault)

def whoamiJson (who : Snapshot) : Json :=
  .obj [("authenticated", .bool who.isAuthenticated),
    ("user", (who.user.map Profile.toJson).getD .null)]

def ofSignIn (r : Except SignInFault Profile × State) : Outcome :=
  ⟨(r.1.map fun u => u.toJson.pretty).mapError .signIn, r.2⟩

def runCommand (app : Application) (transport : Transport) (s : State) : Command → Outcome
  | .login credentials => ofSignIn (app.login transport credentials s)
  | .register registration => ofSignIn (app.register transport registration s)
  | .logout => ⟨.ok "logged out", app.logout s⟩
  | .whoami => ⟨.ok (whoamiJson s.snapshot).pretty, s⟩
  | .call method path query data =>
    match buildCall method path query data with
    | .error failure => ⟨.error failure, s⟩
    | .ok c =>
      let (r, s) := app.send transport c s
      ⟨(r.map Json.pretty).mapError .call, s⟩
  | .navigate path =>
    let (r, s) := app.navigate path s
    ⟨(r.map Location.fullPath).mapError .navigation, s⟩

def run (env : Environment) (disk : Disk) (transport : Transport) (i : Invocation) : Outcome :=
  match settingsOf env i with
  | .error fault => ⟨.error (.settings fault), .ofStore ⟨.memory, .empty, disk⟩⟩
  | .ok s =>
    runCommand (application s) transport (.ofStore (Store.openFile disk s.sessionFile)) i.command

end ClientAccess.CommandLine
