import ClientAccess.Text.Split
/-! Schemes of URLs, and how each wants the rest of its URLs to be read. -/
namespace ClientAccess.Url

inductive Family where
  | web
  | file
  | other
  deriving DecidableEq

def family (scheme : List Char) : Family :=
  if ["http", "https", "ws", "wss", "ftp"].contains (String.ofList scheme) then .web
  else if String.ofList scheme == "file" then .file
  else .other

def Family.isSpecial (f : Family) : Bool := f != .other

def defaultPort? (scheme : List Char) : Option Nat :=
  match String.ofList scheme with
  | "http" | "ws" => some 80
  | "https" | "wss" => some 443
  | "ftp" => some 21
  | _ => none

def isSchemeChar (c : Char) : Bool :=
  c.isAlphanum || c == '+' || c == '-' || c == '.'

def cutScheme (cs : List Char) : Option (List Char × List Char) := do
  let (scheme, rest) ← Text.cutFirst ':' cs
  let first ← scheme.head?
  if first.isAlpha && scheme.all isSchemeChar then some (scheme.map Char.toLower, rest) else none

def isSlash (f : Family) (c : Char) : Bool :=
  c == '/' || (f.isSpecial && c == '\\')

def endsAuthority (f : Family) (c : Char) : Bool :=
  isSlash f c || c == '?' || c == '#'

end ClientAccess.Url
