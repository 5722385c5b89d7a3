import ClientAccess.Application.SignIn
import ClientAccess.Settings
/-! The grammar of the command line. Options of the program itself come before the command, those
of a command anywhere after it; a word that begins with a dash is a value only behind an equals
sign or after `--`. -/
namespace ClientAccess.CommandLine

inductive Command where
  | login (credentials : Credentials)
  | register (registration : Registration)
  | logout
  | whoami
  | call (method path : String) (query : List String) (data : Option String)
  | navigate (path : String)

structure Invocation where
  baseUrl : Option String
  sessionFile : Option String
  command : Command

/-- Why there is no invocation: help was asked for, or the words do not fit the grammar. -/
inductive Usage where
  | help
  | refused
  deriving DecidableEq, Repr

def Usage.exitCode : Usage → Nat
  | help => 0
  | refused => 2

structure Opt where
  long : String
  short : Option Char
  many : Bool
  allowsEmpty : Bool

def Opt.plain (long : String) : Opt := ⟨long, none, false, true⟩

structure Grammar where
  options : List Opt
  places : List (String → Bool)

structure Parsed where
  values : List (String × String)
  words : List String

namespace Parsed

def empty : Parsed := ⟨[], []⟩

def all (p : Parsed) (long : String) : List String :=
  (p.values.filter (·.1 == long)).map Prod.snd

def value? (p : Parsed) (long : String) : Option String := (p.all long).head?

def give (p : Parsed) (o : Opt) (value : String) : Except Usage Parsed :=
  if !o.many && (p.value? o.long).isSome then .error .refused
  else if value == "" && !o.allowsEmpty then .error .refused
  else .ok { p with values := p.values ++ [(o.long, value)] }

end Parsed

inductive Word where
  | plain
  | separator
  | help
  | option (o : Opt) (value : Option String)
  | unknown

def Word.read (options : List Opt) (word : String) : Word :=
  match word.toList with
  | ['-', '-'] => .separator
  | '-' :: '-' :: cs =>
    let (name, value) := match Text.cutFirst '=' cs with
      | some (n, v) => (String.ofList n, some (String.ofList v))
      | none => (String.ofList cs, none)
    match options.find? (·.long == name) with
    | some o => .option o value
    | none => if name == "help" && value.isNone then .help else .unknown
  | '-' :: c :: cs =>
    match options.find? (·.short == some c) with
    | some o =>
      .option o (match cs with
        | [] => none
        | '=' :: v => some (String.ofList v)
        | v => some (String.ofList v))
    | none => if c = 'h' then .help else .unknown
  | _ => .plain

namespace Grammar

def place (g : Grammar) (p : Parsed) (word : String) : Except Usage Parsed :=
  match g.places[p.words.length]? with
  | some fits =>
    if fits word then .ok { p with words := p.words ++ [word] } else .error .refused
  | none => .error .refused

/-- Reads the words of a command. `waiting` is an option whose value is the next word. -/
def read (g : Grammar) (p : Parsed) (waiting : Option Opt) :
    List String → Except Usage Parsed
  | [] => if waiting.isSome then .error .refused else .ok p
  | word :: rest =>
    match Word.read g.options word, waiting with
    | .plain, some o => do g.read (← p.give o word) none rest
    | _, some _ => .error .refused
    | .plain, none => do g.read (← g.place p word) none rest
    | .separator, none => rest.foldlM g.place p
    | .help, none => .error .help
    | .option o (some value), none => do g.read (← p.give o value) none rest
    | .option o none, none => g.read p (some o) rest
    | .unknown, none => .error .refused

end Grammar

def anyWord : String → Bool := fun _ => true

def programOptions : List Opt := [.plain "base-url", ⟨"session-file", none, false, false⟩]

def loginGrammar : Grammar := ⟨[.plain "username", .plain "password"], []⟩

def registerGrammar : Grammar :=
  ⟨[.plain "username", .plain "password", .plain "role", ⟨"skill", none, true, true⟩], []⟩

def callGrammar : Grammar :=
  ⟨[⟨"query", some 'q', true, true⟩, .plain "data"],
    [["get", "post", "put", "delete"].contains, anyWord]⟩

def navigateGrammar : Grammar := ⟨[], [anyWord]⟩

def bareGrammar : Grammar := ⟨[], []⟩

def required (value : Option String) : Except Usage String :=
  match value with
  | some v => .ok v
  | none => .error .refused

def passwordVariable : String := "AUTHGATE_PASSWORD"

def password (env : Environment) (p : Parsed) : Except Usage String :=
  required ((p.value? "password").or (env passwordVariable))

def commandNames : List String :=
  ["login", "register", "logout", "whoami", "api", "navigate", "help"]

def readCommand (env : Environment) (name : String) (words : List String) :
    Except Usage Command := do
  match name with
  | "login" =>
    let p ← loginGrammar.read .empty none words
    return .login ⟨← required (p.value? "username"), ← password env p⟩
  | "register" =>
    let p ← registerGrammar.read .empty none words
    return .register
      ⟨← required (p.value? "username"), ← password env p, p.value? "role", p.all "skill"⟩
  | "logout" =>
    let _ ← bareGrammar.read .empty none words
    return .logout
  | "whoami" =>
    let _ ← bareGrammar.read .empty none words
    return .whoami
  | "api" =>
    let p ← callGrammar.read .empty none words
    match p.words with
    | [method, path] => return .call method path (p.all "query") (p.value? "data")
    | _ => throw .refused
  | "navigate" =>
    let p ← navigateGrammar.read .empty none words
    match p.words with
    | [path] => return .navigate path
    | _ => throw .refused
  | "help" =>
    match words with
    | [] => throw .help
    | [topic] => throw (if commandNames.contains topic then .help else .refused)
    | _ => throw .refused
  | _ => throw .refused

def readProgram (env : Environment) (p : Parsed) (waiting : Option Opt) :
    List String → Except Usage Invocation
  | [] => .error .refused
  | word :: rest =>
    match Word.read programOptions word, waiting with
    | .plain, some o => do readProgram env (← p.give o word) none rest
    | _, some _ => .error .refused
    | .plain, none => do
      let command ← readCommand env word rest
      return ⟨p.value? "base-url", p.value? "session-file", command⟩
    | .separator, none => .error .refused
    | .help, none => .error .help
    | .option o (some value), none => do readProgram env (← p.give o value) none rest
    | .option o none, none => readProgram env p (some o) rest
    | .unknown, none => .error .refused

def read (env : Environment) (words : List String) : Except Usage Invocation :=
  readProgram env .empty none words

end ClientAccess.CommandLine
