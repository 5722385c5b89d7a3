import ClientAccess.Json.Fault
import ClientAccess.Json.Numeral
/-! Reading JSON: a machine with a stack of open lists and objects that takes one character at a
time. What it builds keeps the members of objects as written; `read` brings it to normal form. -/
namespace ClientAccess.Json

/-- A container that is open around the value being read; contents are in reverse. -/
inductive Frame where
  | list (items : List Json)
  | member (members : List (String × Json)) (key : String)

inductive Escape where
  | none
  | backslash
  | hex (digits : List Char) (lead : Option Nat)
  | afterLead (lead : Nat)
  | beforeLow (lead : Nat)

inductive Purpose where
  | value
  | key (members : List (String × Json))

inductive Mode where
  | value
  | firstItem
  | nextItem
  | firstKey
  | nextKey (members : List (String × Json))
  | colon (members : List (String × Json)) (key : String)
  | word (next : Char) (letters : List Char) (value : Json)
  | numeral (n : Numeral)
  | text (purpose : Purpose) (chars : List Char) (escape : Escape)
  | done (value : Json)

structure Machine where
  stack : List Frame
  mode : Mode

/-- A cause, and how many bytes of the character at hand belong to the faulty place. -/
abbrev Step := Except (Cause × Nat) Machine

def refuse (cause : Cause) : Step := .error (cause, 1)

def isSpace (c : Char) : Bool :=
  c == ' ' || c == '\t' || c == '\n' || c == '\r'

def Machine.initial : Machine := ⟨[], .value⟩

def openContainer (limit : Nat) (stack : List Frame) (mode : Mode) : Step :=
  if limit ≤ stack.length then refuse .tooDeep else .ok ⟨stack, mode⟩

def beginValue (limit : Nat) (stack : List Frame) (c : Char) : Step :=
  match Numeral.begin? c with
  | some n => .ok ⟨stack, .numeral n⟩
  | none =>
    if c = 'n' then .ok ⟨stack, .word 'u' ['l', 'l'] .null⟩
    else if c = 't' then .ok ⟨stack, .word 'r' ['u', 'e'] (.bool true)⟩
    else if c = 'f' then .ok ⟨stack, .word 'a' ['l', 's', 'e'] (.bool false)⟩
    else if c = '"' then .ok ⟨stack, .text .value [] .none⟩
    else if c = '[' then openContainer limit stack .firstItem
    else if c = '\x7b' then openContainer limit stack .firstKey
    else refuse .valueExpected

def afterValue (stack : List Frame) (v : Json) (c : Char) : Step :=
  if isSpace c then .ok ⟨stack, .done v⟩
  else match stack with
  | [] => refuse .trailingCharacters
  | .list items :: rest =>
    if c = ',' then .ok ⟨.list (v :: items) :: rest, .nextItem⟩
    else if c = ']' then .ok ⟨rest, .done (.arr (v :: items).reverse)⟩
    else refuse .commaOrBracketExpected
  | .member members key :: rest =>
    if c = ',' then .ok ⟨rest, .nextKey ((key, v) :: members)⟩
    else if c = '\x7d' then .ok ⟨rest, .done (.obj ((key, v) :: members).reverse)⟩
    else refuse .commaOrBraceExpected

def escapedChar? (c : Char) : Option Char :=
  match c with
  | '"' => some '"'
  | '\\' => some '\\'
  | '/' => some '/'
  | 'b' => some '\x08'
  | 'f' => some '\x0c'
  | 'n' => some '\n'
  | 'r' => some '\r'
  | 't' => some '\t'
  | _ => none

def bytesOf (cs : List Char) : Nat := cs.foldl (fun bytes c => bytes + c.utf8Size) 0

/-- One character inside a text; `chars` and the digits of an escape are in reverse. The four
bytes after the letter of a numeric escape are read before they are looked at. -/
def inText (stack : List Frame) (purpose : Purpose) (chars : List Char) (escape : Escape)
    (c : Char) : Step :=
  let go (chars : List Char) (escape : Escape) : Step := .ok ⟨stack, .text purpose chars escape⟩
  match escape with
  | .none =>
    if c = '"' then
      match purpose with
      | .value => .ok ⟨stack, .done (.str (String.ofList chars.reverse))⟩
      | .key members => .ok ⟨stack, .colon members (String.ofList chars.reverse)⟩
    else if c = '\\' then go chars .backslash
    else if c.toNat < 0x20 then refuse .controlCharacter
    else go (c :: chars) .none
  | .backslash =>
    if c = 'u' then go chars (.hex [] .none)
    else match escapedChar? c with
    | some d => go (d :: chars) .none
    | none => refuse .badEscape
  | .hex digits lead =>
    let missing := 4 - bytesOf digits
    let digits := c :: digits
    if bytesOf digits < 4 then go chars (.hex digits lead)
    else match Text.readDigits? 16 digits.reverse, lead with
    | none, _ => .error (.badEscape, missing)
    | some n, none =>
      if 0xDC00 ≤ n ∧ n ≤ 0xDFFF then refuse .loneSurrogate
      else if 0xD800 ≤ n ∧ n ≤ 0xDBFF then go chars (.afterLead n)
      else go (Char.ofNat n :: chars) .none
    | some n, some high =>
      if 0xDC00 ≤ n ∧ n ≤ 0xDFFF then
        go (Char.ofNat (0x10000 + (high - 0xD800) * 0x400 + (n - 0xDC00)) :: chars) .none
      else refuse .loneSurrogate
  | .afterLead lead =>
    if c = '\\' then go chars (.beforeLow lead) else refuse .unpairedSurrogate
  | .beforeLow lead =>
    if c = 'u' then go chars (.hex [] (some lead)) else refuse .unpairedSurrogate

def beginKey (stack : List Frame) (members : List (String × Json)) (c : Char)
    (onClose : Step) : Step :=
  if isSpace c then .ok ⟨stack, if members.isEmpty then .firstKey else .nextKey members⟩
  else if c = '"' then .ok ⟨stack, .text (.key members) [] .none⟩
  else if c = '\x7d' then onClose
  else refuse .keyNotText

def Machine.step (limit : Nat) (m : Machine) (c : Char) : Step :=
  let stack := m.stack
  match m.mode with
  | .value => if isSpace c then .ok m else beginValue limit stack c
  | .firstItem =>
    if isSpace c then .ok m
    else if c = ']' then .ok ⟨stack, .done (.arr [])⟩
    else beginValue limit (.list [] :: stack) c
  | .nextItem =>
    if isSpace c then .ok m
    else if c = ']' then refuse .trailingComma
    else beginValue limit stack c
  | .firstKey => beginKey stack [] c (.ok ⟨stack, .done (.obj [])⟩)
  | .nextKey members => beginKey stack members c (refuse .trailingComma)
  | .colon members key =>
    if isSpace c then .ok m
    else if c = ':' then .ok ⟨.member members key :: stack, .value⟩
    else refuse .colonExpected
  | .word l letters v =>
    if c ≠ l then refuse .wordExpected
    else match letters with
    | [] => .ok ⟨stack, .done v⟩
    | l :: letters => .ok ⟨stack, .word l letters v⟩
  | .numeral n =>
    match n.next c with
    | .ok (some n) => .ok ⟨stack, .numeral n⟩
    | .ok none =>
      match n.value with
      | .ok v => afterValue stack v c
      | .error _ => .error (.outOfRange, 0)
    | .error .malformed => refuse .badNumber
    | .error .outOfRange => refuse .outOfRange
  | .text purpose chars escape => inText stack purpose chars escape c
  | .done v => afterValue stack v c

def endAfter (stack : List Frame) (v : Json) : Except Cause Json :=
  match stack with
  | [] => .ok v
  | .list _ :: _ => .error .listEnds
  | .member _ _ :: _ => .error .objectEnds

def Machine.finish (m : Machine) : Except Cause Json :=
  match m.mode with
  | .done v => endAfter m.stack v
  | .numeral n =>
    if n.isComplete then
      match n.value with
      | .ok v => endAfter m.stack v
      | .error _ => .error .outOfRange
    else .error .valueEnds
  | .firstItem => .error .listEnds
  | .firstKey | .colon _ _ => .error .objectEnds
  | .text _ _ _ => .error .textEnds
  | .value | .nextItem | .nextKey _ | .word _ _ _ => .error .valueEnds

def Machine.run (limit : Nat) (m : Machine) (place : Position) :
    List Char → Except Fault Json
  | [] => m.finish.mapError fun cause => ⟨cause, place⟩
  | c :: cs =>
    match m.step limit c with
    | .ok m => m.run limit (place.after c) cs
    | .error (cause, bytes) => .error ⟨cause, place.within c bytes⟩

def depthLimit : Nat := 127

def readAsWritten (limit : Nat) (text : String) : Except Fault Json :=
  Machine.initial.run limit Position.start text.toList

def read (text : String) : Except Fault Json :=
  (readAsWritten depthLimit text).map normal

end ClientAccess.Json
