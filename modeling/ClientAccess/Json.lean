import ClientAccess.Binary64
import ClientAccess.Entries
/-! JSON values. Whole numbers and doubles are told apart; the members of an object are a list,
so that a text with repeated keys can be represented before it is brought to normal form. -/
namespace ClientAccess

inductive Json where
  | null
  | bool (b : Bool)
  | int (n : Int)
  | float (x : Binary64)
  | str (s : String)
  | arr (items : List Json)
  | obj (members : List (String × Json))
  deriving Inhabited, Repr

namespace Json

mutual
/-- The same value with the members of every object in order of keys, the last of equal keys
kept. -/
def normal : Json → Json
  | arr items => arr (normalItems items)
  | obj members => obj (Entries.ofList (normalMembers members)).items
  | j => j

def normalItems : List Json → List Json
  | [] => []
  | j :: js => normal j :: normalItems js

def normalMembers : List (String × Json) → List (String × Json)
  | [] => []
  | (k, j) :: ms => (k, normal j) :: normalMembers ms
end

def ofEntries (e : Entries Json) : Json := obj e.items

def member? (key : String) : Json → Option Json
  | obj members => Entries.find? key members
  | _ => none

def asText? : Json → Option String
  | str s => some s
  | _ => none

end ClientAccess.Json
