/-! Why and where a text is not JSON. -/
namespace ClientAccess.Json

inductive Cause where
  | valueEnds
  | listEnds
  | objectEnds
  | textEnds
  | trailingComma
  | trailingCharacters
  | colonExpected
  | commaOrBracketExpected
  | commaOrBraceExpected
  | wordExpected
  | valueExpected
  | keyNotText
  | outOfRange
  | badNumber
  | badEscape
  | loneSurrogate
  | unpairedSurrogate
  | tooDeep
  | controlCharacter
  deriving DecidableEq, Repr

def Cause.message : Cause → String
  | valueEnds => "EOF while parsing a value"
  | listEnds => "EOF while parsing a list"
  | objectEnds => "EOF while parsing an object"
  | textEnds => "EOF while parsing a string"
  | trailingComma => "trailing comma"
  | trailingCharacters => "trailing characters"
  | colonExpected => "expected `:`"
  | commaOrBracketExpected => "expected `,` or `]`"
  | commaOrBraceExpected => "expected `,` or `\x7d`"
  | wordExpected => "expected ident"
  | valueExpected => "expected value"
  | keyNotText => "key must be a string"
  | outOfRange => "number out of range"
  | badNumber => "invalid number"
  | badEscape => "invalid escape"
  | loneSurrogate => "lone leading surrogate in hex escape"
  | unpairedSurrogate => "unexpected end of hex escape"
  | tooDeep => "recursion limit exceeded"
  | controlCharacter => "control character (\\u0000-\\u001F) found while parsing a string"

/-- A place in a text: the line, counted from one, and how many bytes of it have been read. -/
structure Position where
  line : Nat
  column : Nat
  deriving DecidableEq, Repr

namespace Position

def start : Position := ⟨1, 0⟩

def within (p : Position) (c : Char) (bytes : Nat) : Position :=
  if bytes = 0 then p
  else if c = '\n' then ⟨p.line + 1, 0⟩
  else ⟨p.line, p.column + bytes⟩

def after (p : Position) (c : Char) : Position := p.within c c.utf8Size

end Position

structure Fault where
  cause : Cause
  place : Position
  deriving DecidableEq, Repr

def Fault.message (f : Fault) : String :=
  f.cause.message ++ " at line " ++ toString f.place.line ++ " column " ++ toString f.place.column

end ClientAccess.Json
