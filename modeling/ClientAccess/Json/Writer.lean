import ClientAccess.Json
import ClientAccess.Decimal.Layout
/-! Writing JSON, on one line or indented by two spaces a level. -/
namespace ClientAccess.Json

/-- Doubles keep a point, and are positional from `0.00001` up to sixteen digits before it. -/
def doubleLayout : Decimal.Layout := ⟨-5, 15⟩

def hexPair (n : Nat) : List Char :=
  [Nat.digitChar (n / 16), Nat.digitChar (n % 16)]

/-- Quotes, backslashes and controls are escaped, those with a letter by it. -/
def escapeChar (c : Char) : List Char :=
  if c = '"' then ['\\', '"']
  else if c = '\\' then ['\\', '\\']
  else if c = '\x08' then ['\\', 'b']
  else if c = '\x0c' then ['\\', 'f']
  else if c = '\n' then ['\\', 'n']
  else if c = '\r' then ['\\', 'r']
  else if c = '\t' then ['\\', 't']
  else if c.toNat < 0x20 then ['\\', 'u', '0', '0'] ++ hexPair c.toNat
  else [c]

def textChars (s : String) : List Char :=
  '"' :: s.toList.flatMap escapeChar ++ ['"']

def intChars : Int → List Char
  | .ofNat n => Nat.toDigits 10 n
  | .negSucc n => '-' :: Nat.toDigits 10 (n + 1)

mutual
def compactChars : Json → List Char
  | null => ['n', 'u', 'l', 'l']
  | bool true => ['t', 'r', 'u', 'e']
  | bool false => ['f', 'a', 'l', 's', 'e']
  | int n => intChars n
  | float x => doubleLayout.chars x
  | str s => textChars s
  | arr items => '[' :: compactItems items ++ [']']
  | obj members => '\x7b' :: compactMembers members ++ ['\x7d']

def compactItems : List Json → List Char
  | [] => []
  | [j] => compactChars j
  | j :: js => compactChars j ++ ',' :: compactItems js

def compactMembers : List (String × Json) → List Char
  | [] => []
  | [(k, j)] => textChars k ++ ':' :: compactChars j
  | (k, j) :: ms => textChars k ++ ':' :: compactChars j ++ ',' :: compactMembers ms
end

def lineStart (level : Nat) : List Char :=
  '\n' :: List.replicate (2 * level) ' '

mutual
def prettyChars (level : Nat) : Json → List Char
  | null => ['n', 'u', 'l', 'l']
  | bool true => ['t', 'r', 'u', 'e']
  | bool false => ['f', 'a', 'l', 's', 'e']
  | int n => intChars n
  | float x => doubleLayout.chars x
  | str s => textChars s
  | arr [] => ['[', ']']
  | arr items => '[' :: prettyItems (level + 1) items ++ lineStart level ++ [']']
  | obj [] => ['\x7b', '\x7d']
  | obj members => '\x7b' :: prettyMembers (level + 1) members ++ lineStart level ++ ['\x7d']

def prettyItems (level : Nat) : List Json → List Char
  | [] => []
  | [j] => lineStart level ++ prettyChars level j
  | j :: js => lineStart level ++ prettyChars level j ++ ',' :: prettyItems level js

def prettyMembers (level : Nat) : List (String × Json) → List Char
  | [] => []
  | [(k, j)] => lineStart level ++ textChars k ++ [':', ' '] ++ prettyChars level j
  | (k, j) :: ms =>
    lineStart level ++ textChars k ++ [':', ' '] ++ prettyChars level j ++
      ',' :: prettyMembers level ms
end

def compact (j : Json) : String := String.ofList (compactChars j)

def pretty (j : Json) : String := String.ofList (prettyChars 0 j)

end ClientAccess.Json
