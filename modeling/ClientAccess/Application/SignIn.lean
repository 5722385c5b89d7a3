import ClientAccess.Application.Calls
import ClientAccess.Grant
/-! Signing in, registering and logging out. -/
namespace ClientAccess

structure Credentials where
  username : String
  password : String

structure Registration where
  username : String
  password : String
  role : Option String
  skills : List String

def Call.withMembers (c : Call) (members : List (String × Json)) : Call :=
  c.withBody (.ofEntries (Entries.ofList members))

def Credentials.call (c : Credentials) : Call :=
  (Call.post "/api/auth/login").withMembers
    [("username", .str c.username), ("password", .str c.password)]

def Registration.call (r : Registration) : Call :=
  let role := r.role.map fun role => ("role", Json.str role)
  let skills := if r.skills.isEmpty then [] else [("skills", Json.arr (r.skills.map .str))]
  (Call.post "/api/auth/register").withMembers
    ([("username", .str r.username), ("password", .str r.password)] ++ role.toList ++ skills)

/-- Why no session was established. A refused call has been told to the user. -/
inductive SignInFault where
  | refused (refusal : Refusal)
  | malformed (fault : Grant.Fault)

def SignInFault.message : SignInFault → String
  | refused refusal => refusal.message
  | malformed fault => fault.message

namespace Application

def enroll (app : Application) (transport : Transport) (username : String) (call : Call)
    (s : State) : Except SignInFault Profile × State :=
  match app.send transport call s with
  | (.error refusal, s) => (.error (.refused refusal), s)
  | (.ok body, s) =>
    match Grant.ofBody username body with
    | .error fault => (.error (.malformed fault), s)
    | .ok grant => (.ok grant.user, s.change (Session.establishing grant.token grant.user))

def login (app : Application) (transport : Transport) (credentials : Credentials) (s : State) :
    Except SignInFault Profile × State :=
  app.enroll transport credentials.username credentials.call s

def register (app : Application) (transport : Transport) (registration : Registration)
    (s : State) : Except SignInFault Profile × State :=
  app.enroll transport registration.username registration.call s

def logout (app : Application) (s : State) : State :=
  app.push app.loginPath (s.change Session.ending)

end Application

end ClientAccess
