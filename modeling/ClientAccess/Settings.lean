import ClientAccess.Disk
import ClientAccess.Text.Ascii
import ClientAccess.Text.Blank
import ClientAccess.Text.Quoted
/-! Settings read from an environment. Only the timeout can be wrong; everything else has a
default to fall back on. -/
namespace ClientAccess

abbrev Environment := String → Option String

structure Settings where
  baseUrl : String
  production : Bool
  timeoutSeconds : Nat
  sessionFile : String
  deriving DecidableEq, Repr

namespace Settings

def baseUrlVariable : String := "AUTHGATE_API_BASE_URL"
def productionVariable : String := "AUTHGATE_PRODUCTION"
def timeoutVariable : String := "AUTHGATE_REQUEST_TIMEOUT_SECS"
def sessionFileVariable : String := "AUTHGATE_SESSION_FILE"

structure Fault where
  variableName : String
  value : String
  deriving DecidableEq, Repr

def Fault.message (f : Fault) : String :=
  "invalid value for " ++ f.variableName ++ ": " ++ Text.quoted f.value

def readBool? (raw : String) : Option Bool :=
  let word := Text.lowerAscii (Text.trim raw)
  if ["1", "true", "yes", "on"].contains word then some true
  else if ["0", "false", "no", "off"].contains word then some false
  else none

def localServer : String := "http://localhost:8080"

/-- The address calls are put below. A rooted one stands for none, since paths are rooted
themselves; a missing one is none in production and the local server otherwise. -/
def resolveBaseUrl (raw : Option String) (production : Bool) : String :=
  match (raw.map Text.trim).filter (· != "") with
  | some value => if value.toList.head? == some '/' then "" else Text.dropSlashes value
  | none => if production then "" else localServer

def dropPlus : List Char → List Char
  | '+' :: cs => cs
  | cs => cs

def readTimeout? (raw : String) : Option Nat :=
  (Text.readDigits? 10 (dropPlus (Text.trimChars raw.toList))).filter
    fun n => 0 < n && n < 1 <<< 64

def defaultSessionFile : String := ".authgate-session.json"

def withTimeout (env : Environment) (timeoutSeconds : Nat) : Settings :=
  let production := ((env productionVariable).bind readBool?).getD false
  { baseUrl := resolveBaseUrl (env baseUrlVariable) production
    production
    timeoutSeconds
    sessionFile := ((env sessionFileVariable).filter (!Text.isBlankText ·)).getD defaultSessionFile }

def ofEnvironment (env : Environment) : Except Fault Settings :=
  match env timeoutVariable with
  | none => .ok (withTimeout env 10)
  | some raw =>
    match readTimeout? raw with
    | some n => .ok (withTimeout env n)
    | none => .error ⟨timeoutVariable, raw⟩

def standard : Settings := ⟨localServer, false, 10, defaultSessionFile⟩

/-- What tells two spellings of a file path apart: whether it is absolute, whether it begins with
the current directory, and its steps. -/
def pathComponents (path : String) : Bool × Bool × List String :=
  (Disk.isAbsolute path, (Disk.steps path).head? == some ".",
    (Disk.steps path).filter (!Disk.isIdle ·))

def isStandard (s : Settings) : Bool :=
  { s with sessionFile := defaultSessionFile } == standard &&
    pathComponents s.sessionFile == pathComponents defaultSessionFile

end Settings

end ClientAccess
