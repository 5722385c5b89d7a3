import ClientAccess.Url.Domain
import ClientAccess.Url.Escape
import ClientAccess.Url.Fault
/-! Hosts of URLs: addresses of either length, domain names, and the opaque hosts of schemes that
give them no meaning. Hosts are kept in the form in which they are written again. -/
namespace ClientAccess.Url.Host

/-- A part of an address: hexadecimal after `0x`, octal after `0`, otherwise decimal. -/
def addressPart? : List Char → Option Nat
  | [] => none
  | '0' :: 'x' :: cs | '0' :: 'X' :: cs => Text.readDigits? 16 cs
  | '0' :: c :: cs => Text.readDigits? 8 (c :: cs)
  | cs => Text.readDigits? 10 cs

def labels (cs : List Char) : List (List Char) :=
  let parts := cs.splitOn '.'
  if parts.getLast? = some [] then parts.dropLast else parts

def endsInNumber (cs : List Char) : Bool :=
  match (labels cs).getLast? with
  | none => false
  | some last => (!last.isEmpty && last.all Text.isDigit) || (addressPart? last).isSome

/-- An address of up to four parts; the last one fills what the others leave. -/
def ipv4? (cs : List Char) : Option Nat := do
  let numbers ← (labels cs).mapM addressPart?
  let last ← numbers.getLast?
  let others := numbers.dropLast
  if others.length > 3 || others.any (255 < ·) || 1 <<< (8 * (4 - others.length)) ≤ last then none
  else some (others.zipIdx.foldl (fun sum (n, i) => sum + n <<< (8 * (3 - i))) last)

def ipv4Text (n : Nat) : List Char :=
  ['.'].intercalate ([24, 16, 8, 0].map fun shift => Nat.toDigits 10 ((n >>> shift) % 256))

def octet? (cs : List Char) : Option Nat :=
  if cs.isEmpty || !cs.all Text.isDigit || (cs.head? == some '0' && cs.length > 1) then none
  else (Text.readDigits? 10 cs).filter (· ≤ 255)

def dotted? (cs : List Char) : Option (List Nat) :=
  match (cs.splitOn '.').mapM octet? with
  | some [a, b, c, d] => some [a * 256 + b, c * 256 + d]
  | _ => none

def ipv6Pieces (pieces : List Nat) (gap : Option Nat) (cs : List Char) :
    Option (List Nat × Option Nat) :=
  match cs with
  | [] => some (pieces, gap)
  | c :: rest =>
    if pieces.length = 8 then none
    else if c = ':' then
      if gap.isSome then none else ipv6Pieces (pieces ++ [0]) (some (pieces.length + 1)) rest
    else
      let digits := ((c :: rest).take 4).takeWhile fun c => (Text.hexValue? c).isSome
      match h : (c :: rest).drop digits.length with
      | [] => (Text.readDigits? 16 digits).map fun n => (pieces ++ [n], gap)
      | '.' :: _ =>
        if digits.isEmpty || pieces.length > 6 then none
        else (dotted? (c :: rest)).map fun ns => (pieces ++ ns, gap)
      | ':' :: more =>
        if more.isEmpty then none
        else (Text.readDigits? 16 digits).bind fun n => ipv6Pieces (pieces ++ [n]) gap more
      | _ => none
termination_by cs.length
decreasing_by
  · simp
  · have := congrArg List.length h
    simp only [List.length_drop, List.length_cons] at this ⊢
    omega

def ipv6? (cs : List Char) : Option (List Nat) := do
  let (pieces, gap) ← match cs with
    | ':' :: ':' :: rest => ipv6Pieces [0] (some 1) rest
    | ':' :: _ => none
    | _ => ipv6Pieces [] none cs
  match gap with
  | none => if pieces.length = 8 then some pieces else none
  | some g =>
    if 8 < pieces.length then none
    else some (pieces.take g ++ List.replicate (8 - pieces.length) 0 ++ pieces.drop g)

def zeroRun (ns : List Nat) : Nat := (ns.takeWhile (· == 0)).length

/-- Start and length of the first longest run of zeros from position `i` on. -/
def longestRun (i : Nat) : List Nat → Nat × Nat
  | [] => (i, 0)
  | n :: ns =>
    let here := zeroRun (n :: ns)
    let (start, length) := longestRun (i + 1) ns
    if here ≠ 0 && length ≤ here then (i, here) else (start, length)

def hexText (ns : List Nat) : List Char :=
  [':'].intercalate (ns.map (Nat.toDigits 16))

def ipv6Text (ns : List Nat) : List Char :=
  let (start, length) := longestRun 0 ns
  let body :=
    if length < 2 then hexText ns
    else hexText (ns.take start) ++ [':', ':'] ++ hexText (ns.drop (start + length))
  '[' :: body ++ [']']

def forbiddenInOpaque : List Char :=
  [Char.ofNat 0, '\t', '\n', '\r', ' ', '#', '/', ':', '<', '>', '?', '@', '[', '\\', ']', '^', '|']

def bracketed (cs : List Char) : Except Fault (List Char) :=
  if cs.getLast? ≠ some ']' || cs.length < 2 then .error .badIpv6
  else match ipv6? (cs.drop 1).dropLast with
  | some ns => .ok (ipv6Text ns)
  | none => .error .badIpv6

def parse (cs : List Char) : Except Fault (List Char) :=
  if cs.head? = some '[' then bracketed cs
  else
    match (Text.Percent.decode? (String.ofList cs)).bind fun s => Domain.toAscii s.toList with
    | none => .error .badDomain
    | some domain =>
      if domain.isEmpty then .error .emptyHost
      else if endsInNumber domain then
        match ipv4? domain with
        | some n => .ok (ipv4Text n)
        | none => .error .badIpv4
      else .ok domain

def parseOpaque (cs : List Char) : Except Fault (List Char) :=
  if cs.head? = some '[' then bracketed cs
  else if cs.any forbiddenInOpaque.contains then .error .badHostCharacter
  else .ok (escape isControl cs)

end ClientAccess.Url.Host
