import ClientAccess.Json.Reader
import ClientAccess.Text.Blank
import ClientAccess.Text.Utf8
/-! What comes back from a request, and its reading as a value or as a refusal of one of five
kinds with the message shown to the user. -/
namespace ClientAccess

structure Reply where
  status : Nat
  body : Option Json

def Reply.isSuccess (r : Reply) : Bool := 200 ≤ r.status && r.status < 300

inductive Failure where
  | noResponse (detail : String)
  | notSent (detail : String)
  deriving DecidableEq, Repr

def Failure.message : Failure → String
  | noResponse detail => "no response: " ++ detail
  | notSent detail => detail

abbrev Answer := Except Failure Reply

inductive Refusal where
  | envelope (message : String)
  | expired (message : String)
  | status (code : Nat) (message : String)
  | network (message : String)
  | unsent (message : String)
  deriving DecidableEq, Repr

namespace Refusal

def message : Refusal → String
  | envelope m | expired m | status _ m | network m | unsent m => m

def code? : Refusal → Option Nat
  | expired _ => some 401
  | status code _ => some code
  | _ => none

def isExpired : Refusal → Bool
  | expired _ => true
  | _ => false

end Refusal

def statusMessage (status : Nat) : String :=
  match status with
  | 400 => "bad request parameters"
  | 403 => "access denied"
  | 404 => "requested resource not found"
  | 500 => "internal server error"
  | 502 => "bad gateway"
  | 503 => "service unavailable"
  | 504 => "gateway timeout"
  | _ => "request failed (" ++ toString status ++ ")"

namespace Answer

def textMember? (key : String) (members : List (String × Json)) : Option String :=
  ((Entries.find? key members).bind Json.asText?).filter (· != "")

def bodyMessage? (members : List (String × Json)) : Option String :=
  (textMember? "msg" members).or (textMember? "message" members)

def deniesSuccess (members : List (String × Json)) : Bool :=
  match Entries.find? "success" members with
  | some (.bool false) => true
  | _ => false

def ofBody (body : Option Json) : Except Refusal Json :=
  match body with
  | none => .ok .null
  | some (.obj members) =>
    if deniesSuccess members then
      .error (.envelope ((bodyMessage? members).getD "request failed"))
    else .ok (.obj members)
  | some v => .ok v

/-- The refusal of another status. A 401 always means that the session has expired. -/
def ofStatus (status : Nat) (body : Option Json) : Refusal :=
  if status = 401 then .expired "session expired, please log in again"
  else
    let message := match body with
      | some (.obj members) => (bodyMessage? members).getD (statusMessage status)
      | some (.str text) => if text != "" then text else statusMessage status
      | _ => statusMessage status
    .status status message

def ofFailure : Failure → Refusal
  | .noResponse _ => .network "network error, check your connection"
  | .notSent detail =>
    if Text.isBlankText detail then .unsent "request configuration error"
    else .unsent detail

def outcome : Answer → Except Refusal Json
  | .ok reply =>
    if reply.isSuccess then ofBody reply.body else .error (ofStatus reply.status reply.body)
  | .error failure => .error (ofFailure failure)

end Answer

def isBlankByte (b : UInt8) : Bool :=
  b == 0x20 || b == 0x09 || b == 0x0A || b == 0x0C || b == 0x0D

/-- The body in received bytes: none if they are blank, the value of a JSON text, and otherwise
the text itself. -/
def decodeBody (bytes : ByteArray) : Option Json :=
  if bytes.data.toList.all isBlankByte then none
  else
    match String.fromUTF8? bytes with
    | none => some (.str (Text.Utf8.lossy bytes))
    | some text =>
      match Json.read text with
      | .ok v => some v
      | .error _ => some (.str text)

end ClientAccess
