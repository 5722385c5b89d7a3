import ClientAccess.Json.Reader
import ClientAccess.Json.Writer
/-! Profiles of signed-in users and the JSON text they are stored as: the id, the role if there is
one, then all other members in order of keys. -/
namespace ClientAccess

structure Profile where
  id : String
  role : Option String
  extra : Entries Json

namespace Profile

def members (u : Profile) : List (String × Json) :=
  ("id", .str u.id) :: (u.role.map fun r => ("role", Json.str r)).toList ++ u.extra.items

def encode (u : Profile) : String := (Json.obj u.members).compact

/-- One object with all members; members of `extra` win over the id and the role. -/
def toJson (u : Profile) : Json := .ofEntries (Entries.ofList u.members)

/-- An id is a text, or a number kept as it is printed; `null` is the empty id. -/
def idOfJson? : Json → Option String
  | .str s => some s
  | .int n => some (Json.int n).compact
  | .float x => some (Json.float x).compact
  | .null => some ""
  | _ => none

def roleOfJson? : Json → Option (Option String)
  | .str s => some (some s)
  | .null => some none
  | _ => none

/-- The values of a key, in order. -/
def valuesOf (key : String) (members : List (String × Json)) : List Json :=
  (members.filter (·.1 == key)).map Prod.snd

def single? (key : String) (members : List (String × Json)) : Option Json :=
  match valuesOf key members with
  | [] => some .null
  | [v] => some v
  | _ => none

def ofMembers? (members : List (String × Json)) : Option Profile := do
  let id ← (single? "id" members).bind idOfJson?
  let role ← (single? "role" members).bind roleOfJson?
  let others := members.filter fun m => m.1 != "id" && m.1 != "role"
  return ⟨id, role, Entries.ofList (Json.normalMembers others)⟩

def decode? (text : String) : Option Profile :=
  match Json.readAsWritten Json.depthLimit text with
  | .ok (.obj members) => ofMembers? members
  | _ => none

end Profile

structure Snapshot where
  token : Option String
  user : Option Profile

namespace Snapshot

def isAuthenticated (s : Snapshot) : Bool := s.token.isSome

def role (s : Snapshot) : Option String := s.user.bind (·.role)

end Snapshot

end ClientAccess
