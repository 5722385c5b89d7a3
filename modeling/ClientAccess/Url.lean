import ClientAccess.Url.Host
import ClientAccess.Url.Path
/-! Absolute URLs: reading them leniently, as browsers do, and writing them in canonical form. -/
namespace ClientAccess

structure Url.Userinfo where
  name : List Char
  password : Option (List Char)

/-- A URL in parts as they are written. Without an authority there is no host; an empty one is
no host either. -/
structure Url where
  scheme : List Char
  user : Option Url.Userinfo
  host : Option (List Char)
  port : Option Nat
  path : List Char
  query : Option (List Char)
  fragment : Option (List Char)

namespace Url

def clean (cs : List Char) : List Char :=
  let blank (c : Char) : Bool := c.toNat ≤ 0x20
  (Text.dropEnd blank (cs.dropWhile blank)).filter fun c => c != '\t' && c != '\n' && c != '\r'

def Userinfo.ofChars (cs : List Char) : Option Userinfo :=
  let (name, password) := (Text.cutFirst ':' cs).getD (cs, [])
  if name.isEmpty && password.isEmpty then none
  else some ⟨escape inUserinfo name,
    if password.isEmpty then none else some (escape inUserinfo password)⟩

def cutUserinfo (authority : List Char) : Option (List Char) × List Char :=
  match Text.cutFirst '@' authority.reverse with
  | some (host, user) => (some user.reverse, host.reverse)
  | none => (none, authority)

/-- The host of an authority up to its port; a colon in brackets belongs to the host. -/
def cutPort (inside : Bool) : List Char → List Char × Option (List Char)
  | [] => ([], none)
  | c :: cs =>
    if c = ':' ∧ !inside then ([], some cs)
    else
      let (host, port) := cutPort (if c = '[' then true else if c = ']' then false else inside) cs
      (c :: host, port)

def readPort (scheme cs : List Char) : Except Fault (Option Nat) :=
  match Text.readDigits? 10 cs with
  | none => .error .badPort
  | some n =>
    if 65535 < n then .error .badPort
    else if cs.isEmpty || defaultPort? scheme = some n then .ok none
    else .ok (some n)

/-- What an authority says, and what of it belongs to the path after all: a backslash ends a
port. -/
structure Authority where
  user : Option Userinfo
  host : List Char
  port : Option Nat
  rest : List Char

def Authority.parse (scheme : List Char) (f : Family) (cs : List Char) (more : Bool) :
    Except Fault Authority := do
  let (before, after) := cutUserinfo cs
  if before = some [] && after.isEmpty && more then throw .emptyHost
  let user := before.bind Userinfo.ofChars
  let (name, port) := cutPort false after
  if name.isEmpty && (f == .web || port.isSome || user.isSome) then throw .emptyHost
  let host ← if f.isSpecial then Host.parse name else Host.parseOpaque name
  let (digits, rest) := (port.getD []).span (· != '\\')
  return ⟨user, host, ← readPort scheme digits, rest⟩

structure Tail where
  path : List Char
  query : Option (List Char)
  fragment : Option (List Char)

def cutTail (f : Family) (cs : List Char) : Tail :=
  let (cs, fragment) := match Text.cutFirst '#' cs with
    | some (a, b) => (a, some (escape inFragment b))
    | none => (cs, none)
  match Text.cutFirst '?' cs with
  | some (a, b) => ⟨a, some (escape (inQuery f) b), fragment⟩
  | none => ⟨cs, none, fragment⟩

def readAfterSlashes (scheme : List Char) (f : Family) (cs : List Char) : Except Fault Url := do
  let (authority, rest) := cs.span (!endsAuthority f ·)
  let a ← Authority.parse scheme f authority !rest.isEmpty
  let t := cutTail f (a.rest ++ rest)
  return ⟨scheme, a.user, some a.host, a.port, (Path.afterAuthority f t.path).1, t.query,
    t.fragment⟩

def ofFile (scheme host : List Char) (path : List Char × Bool) (t : Tail) : Url :=
  ⟨scheme, none, some (if path.2 then host else []), none, path.1, t.query, t.fragment⟩

/-- The text after the scheme `file`. The local host is no host, nor is a drive, which begins the
path. -/
def readFile (scheme cs : List Char) : Except Fault Url := do
  match cs.span (isSlash .file) with
  | (_ :: _ :: _, _) =>
    let (name, rest) := (cs.drop 2).span (!endsAuthority .file ·)
    if Path.isDrive name then
      let t := cutTail .file (name ++ rest)
      return ofFile scheme [] (Path.build .file ['/'] t.path) t
    else
      let t := cutTail .file rest
      let host ← if name.isEmpty then pure [] else Host.parse name
      if host.isEmpty || host = "localhost".toList then
        return ofFile scheme [] (Path.build .file ['/'] t.path) t
      else return ofFile scheme host (Path.afterAuthority .file t.path) t
  | (slashes, _) =>
    let t := cutTail .file cs
    return ofFile scheme [] (Path.build .file (if slashes.isEmpty then ['/'] else []) t.path) t

def readOther (scheme cs : List Char) : Except Fault Url :=
  match cs with
  | '/' :: '/' :: rest => readAfterSlashes scheme .other rest
  | '/' :: rest =>
    let t := cutTail .other rest
    .ok ⟨scheme, none, none, none, (Path.build .other ['/'] t.path).1, t.query, t.fragment⟩
  | _ =>
    let t := cutTail .other cs
    .ok ⟨scheme, none, none, none, escape isControl t.path, t.query, t.fragment⟩

def parse (text : String) : Except Fault Url :=
  match cutScheme (clean text.toList) with
  | none => .error .relative
  | some (scheme, rest) =>
    match family scheme with
    | .web => readAfterSlashes scheme .web (rest.dropWhile (isSlash .web))
    | .file => readFile scheme rest
    | .other => readOther scheme rest

def hasHost (u : Url) : Bool := u.host.any (!·.isEmpty)

def isText (cs : List Char) : Bool := (Text.Percent.decode? (String.ofList cs)).isSome

/-- Whether name and password can be sent as credentials: the name has to be a text, and if it is
empty the password too. -/
def Userinfo.isReadable (u : Userinfo) : Bool :=
  isText u.name && (!u.name.isEmpty || u.password.any isText)

def withoutCredentials (u : Url) : Url := { u with user := u.user.filter (!·.isReadable) }

def Userinfo.chars (u : Userinfo) : List Char :=
  u.name ++ (u.password.map (':' :: ·)).getD [] ++ ['@']

def render (u : Url) : String :=
  let authority := match u.host with
    | some host =>
      ['/', '/'] ++ (u.user.map Userinfo.chars).getD [] ++ host ++
        (u.port.map fun n => ':' :: Nat.toDigits 10 n).getD []
    | none => if u.path.take 2 = ['/', '/'] then ['/', '.'] else []
  String.ofList (u.scheme ++ ':' :: authority ++ u.path ++
    (u.query.map ('?' :: ·)).getD [] ++ (u.fragment.map ('#' :: ·)).getD [])

def formEncode (s : String) : List Char :=
  s.toList.flatMap fun c =>
    if c = ' ' then ['+']
    else if c.isAlphanum || c == '*' || c == '-' || c == '.' || c == '_' then [c]
    else (String.utf8EncodeChar c).flatMap Text.Percent.escapeByte

def addPairs (u : Url) (pairs : List (String × String)) : Url :=
  if pairs.isEmpty then u
  else
    let added := ['&'].intercalate (pairs.map fun (k, v) => formEncode k ++ '=' :: formEncode v)
    let query := match u.query with
      | some (c :: q) => (c :: q) ++ '&' :: added
      | _ => added
    { u with query := some query }

end ClientAccess.Url
