import ClientAccess.Json
import ClientAccess.Text.Ascii
/-! Calls as the application makes them, and requests as they are handed to the transport. -/
namespace ClientAccess

structure Call where
  method : String
  path : String
  query : List (String × String)
  body : Option Json

namespace Call

def ofMethod (method path : String) : Call := ⟨method, path, [], none⟩

def get (path : String) : Call := .ofMethod "GET" path
def post (path : String) : Call := .ofMethod "POST" path
def put (path : String) : Call := .ofMethod "PUT" path
def delete (path : String) : Call := .ofMethod "DELETE" path

def addQuery (c : Call) (key value : String) : Call :=
  { c with query := c.query ++ [(key, value)] }

def withBody (c : Call) (body : Json) : Call := { c with body := some body }

end Call

structure OutgoingRequest where
  method : String
  url : String
  query : List (String × String)
  headers : List (String × String)
  body : Option Json

namespace OutgoingRequest

def header? (r : OutgoingRequest) (name : String) : Option String :=
  (r.headers.find? fun h => Text.lowerAscii h.1 == Text.lowerAscii name).map Prod.snd

end OutgoingRequest

end ClientAccess
