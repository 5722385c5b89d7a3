import ClientAccess.Profile
import ClientAccess.Text.Quoted
/-! Grants: what the server says about a new session, read out of the member `data` of a reply's
body. -/
namespace ClientAccess

structure Grant where
  token : String
  user : Profile

namespace Grant

inductive Fault where
  | missingData
  | missingToken
  | notObject (found : Json)
  | notText (found : Json)

def kindOf : Json → String
  | .null => "null"
  | .bool b => "boolean `" ++ toString b ++ "`"
  | .int n => "integer `" ++ (Json.int n).compact ++ "`"
  | .float x => "floating point `" ++ (Json.float x).compact ++ "`"
  | .str s => "string " ++ Text.quoted s
  | .arr _ => "sequence"
  | .obj _ => "map"

def Fault.message : Fault → String
  | missingData => "malformed auth response: missing data"
  | missingToken => "malformed auth response: missing token"
  | notObject found =>
    "malformed auth response: invalid type: " ++ kindOf found ++ ", expected struct SessionGrant"
  | notText found =>
    "malformed auth response: invalid type: " ++ kindOf found ++ ", expected a string"

def textOf (key : String) (members : List (String × Json)) : Except Fault (Option String) :=
  match Entries.find? key members with
  | none | some .null => .ok none
  | some (.str s) => .ok (some s)
  | some found => .error (.notText found)

def nonEmpty (text : Option String) : Option String := text.filter (· != "")

/-- The id granted: a text or a printed number, and the name of the user without one. -/
def idOf (username : String) (members : List (String × Json)) : String :=
  match Entries.find? "loginId" members with
  | some (.str s) => s
  | some (.int n) => (Json.int n).compact
  | some (.float x) => (Json.float x).compact
  | _ => username

/-- The members kept as they are, the name of the user added if it is not among them. -/
def extraOf (username : String) (members : List (String × Json)) : Entries Json :=
  let kept := Entries.ofList
    (members.filter fun m => m.1 != "token" && m.1 != "loginId" && m.1 != "role")
  if (kept.get? "username").isSome then kept else kept.insert "username" (.str username)

def ofMembers (username : String) (members : List (String × Json)) : Except Fault Grant := do
  let role ← textOf "role" members
  let token ← textOf "token" members
  match nonEmpty token with
  | none => .error .missingToken
  | some token =>
    return ⟨token,
      { id := idOf username members
        role := some ((nonEmpty role).getD "user")
        extra := extraOf username members }⟩

def ofBody (username : String) (body : Json) : Except Fault Grant :=
  match body.member? "data" with
  | none => .error .missingData
  | some (.obj members) => ofMembers username members
  | some found => .error (.notObject found)

end Grant

end ClientAccess
