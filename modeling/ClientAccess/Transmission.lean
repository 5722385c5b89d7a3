import ClientAccess.Call
import ClientAccess.Answer
import ClientAccess.Text.Quoted
import ClientAccess.Url
/-! What a request has to satisfy before it can go out: its address is a URL, its header values
can be sent, and the address is one of the web. No peer ever answers, so a request that gets as
far as being sent has no response. -/
namespace ClientAccess.Transmission

def isHeaderChar (c : Char) : Bool :=
  c == '\t' || (0x20 ≤ c.toNat && c.toNat != 0x7F)

def isNameChar (c : Char) : Bool :=
  c.isAlphanum || "!#$%&'*+-.^_\x60|~".toList.contains c

def isHeaderName (name : String) : Bool :=
  !name.isEmpty && name.toList.all isNameChar

def headerFault? (headers : List (String × String)) : Option String :=
  (headers.find? fun h => !h.2.toList.all isHeaderChar).map fun h =>
    "invalid " ++ h.1 ++ " header: failed to parse header value"

def badAddress (u : Url) : String := "builder error for url (" ++ u.render ++ ")"

/-- Characters that URLs allow in hosts and requests do not. -/
def isUnsendable (c : Char) : Bool :=
  c == '"' || c == '\x60' || c == '\x7b' || c == '\x7d'

def addressLimit : Nat := 65534

def isWeb (u : Url) : Bool :=
  (u.scheme == "http".toList || u.scheme == "https".toList) &&
    !(u.host.getD []).any isUnsendable && u.render.utf8ByteSize ≤ addressLimit

def requestFault? (r : OutgoingRequest) (u : Url) : Option String :=
  if !u.hasHost then some (badAddress u)
  else if r.headers.any fun h => !isHeaderName h.1 then some "builder error"
  else
    let u := u.addPairs r.query
    if isWeb u then none else some (badAddress u)

def fault? (r : OutgoingRequest) : Option String :=
  match Url.parse r.url with
  | .error f => some ("invalid URL " ++ Text.quoted r.url ++ ": " ++ f.message)
  | .ok u => (headerFault? r.headers).or (requestFault? r u.withoutCredentials)

def unanswered (r : OutgoingRequest) : Answer :=
  match fault? r with
  | some detail => .error (.notSent detail)
  | none => .error (.noResponse "no peer")

end ClientAccess.Transmission
