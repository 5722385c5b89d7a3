import ClientAccess.Json.Reader
import ClientAccess.Proofs.Json.Whole

/-! How values may be written. A value is a row of tokens, which its shape alone decides; a text
writes the value if it spells these tokens one after the other, with any blanks before, between and
behind them. Only texts and numbers can be spelled in more than one way. -/
namespace ClientAccess.Json

inductive Token where
  | mark (c : Char)
  | leaf (v : Json)

mutual
def tokens : Json → List Token
  | arr items => .mark '[' :: tokensItems items ++ [.mark ']']
  | obj members => .mark '\x7b' :: tokensMembers members ++ [.mark '\x7d']
  | v => [.leaf v]

def tokensItems : List Json → List Token
  | [] => []
  | [j] => tokens j
  | j :: js => tokens j ++ .mark ',' :: tokensItems js

def tokensMembers : List (String × Json) → List Token
  | [] => []
  | [(k, j)] => .leaf (.str k) :: .mark ':' :: tokens j
  | (k, j) :: ms => .leaf (.str k) :: .mark ':' :: tokens j ++ .mark ',' :: tokensMembers ms
end

def letterEscapes : List (Char × Char) :=
  [('"', '"'), ('\\', '\\'), ('/', '/'), ('b', '\x08'), ('f', '\x0c'), ('n', '\n'), ('r', '\r'),
    ('t', '\t')]

structure IsUnit (digits : List Char) (n : Nat) : Prop where
  length : digits.length = 4
  value : Text.readDigits? 16 digits = some n

def IsLead (n : Nat) : Prop := 0xD800 ≤ n ∧ n ≤ 0xDBFF

def IsTrail (n : Nat) : Prop := 0xDC00 ≤ n ∧ n ≤ 0xDFFF

/-- One character within a text, as itself or escaped. One beyond the first plane is escaped by two
numbers, which cannot stand alone. -/
inductive Piece : List Char → Char → Prop
  | plain {c : Char} (quote : c ≠ '"') (backslash : c ≠ '\\') (control : 0x20 ≤ c.toNat) :
    Piece [c] c
  | letter {l c : Char} (escape : (l, c) ∈ letterEscapes) : Piece ['\\', l] c
  | unit {digits : List Char} {n : Nat} (digits_eq : IsUnit digits n) (lead : ¬ IsLead n)
    (trail : ¬ IsTrail n) : Piece ('\\' :: 'u' :: digits) (Char.ofNat n)
  | pair {front back : List Char} {high low : Nat} (front_eq : IsUnit front high)
    (lead : IsLead high) (back_eq : IsUnit back low) (trail : IsTrail low) :
    Piece ('\\' :: 'u' :: front ++ '\\' :: 'u' :: back)
      (Char.ofNat (0x10000 + (high - 0xD800) * 0x400 + (low - 0xDC00)))

inductive Body : List Char → List Char → Prop
  | nil : Body [] []
  | snoc {cs s w : List Char} {c : Char} (front : Body cs s) (last : Piece w c) :
    Body (cs ++ w) (s ++ [c])

namespace Numeral

def signChars (negative : Bool) : List Char := if negative then ['-'] else []

structure IsDigits (ds : List Nat) : Prop where
  some : ds ≠ []
  decimal : ∀ d ∈ ds, d < 10

/-- A whole number without a nought in front, then perhaps a fraction, then perhaps a power of ten.
The power may pass the limit only where the value is nought anyway or too small to matter. -/
inductive Spells : List Char → Numeral → Prop
  | nought (negative : Bool) : Spells (signChars negative ++ ['0']) (start negative .zero [0])
  | whole (negative : Bool) {ds : List Nat} (digits : IsDigits ds) (front : ds.head? ≠ some 0) :
    Spells (signChars negative ++ ds.map Nat.digitChar) (start negative .whole ds)
  | fraction {cs : List Char} {n : Numeral} {ds : List Nat} (number : Spells cs n)
    (phase : n.phase = .zero ∨ n.phase = .whole) (digits : IsDigits ds) :
    Spells (cs ++ '.' :: ds.map Nat.digitChar) { n with phase := .fraction, fraction := ds }
  | power {cs sign : List Char} {n : Numeral} {m : Char} {ds : List Nat} (number : Spells cs n)
    (phase : n.phase ≠ .exponent) (mark : isMark m = true)
    (signed : sign = [] ∨ sign = ['+'] ∨ sign = ['-']) (digits : IsDigits ds)
    (range : ofDigits 0 ds ≤ exponentLimit ∨ n.isNought = true ∨ sign = ['-']) :
    Spells (cs ++ m :: sign ++ ds.map Nat.digitChar)
      { n with
        phase := .exponent, exponentNegative := sign == ['-'], exponent := ofDigits 0 ds }

end Numeral

inductive Spelling : List Char → Token → Prop
  | mark (c : Char) : Spelling [c] (.mark c)
  | null : Spelling ['n', 'u', 'l', 'l'] (.leaf .null)
  | true : Spelling ['t', 'r', 'u', 'e'] (.leaf (.bool true))
  | false : Spelling ['f', 'a', 'l', 's', 'e'] (.leaf (.bool false))
  | text {cs s : List Char} (body : Body cs s) :
    Spelling ('"' :: cs ++ ['"']) (.leaf (.str (String.ofList s)))
  | number {cs : List Char} {n : Numeral} {v : Json} (digits : n.Spells cs)
    (value : n.value = .ok v) : Spelling cs (.leaf v)

def IsBlank (cs : List Char) : Prop := ∀ c ∈ cs, isSpace c = true

instance (cs : List Char) : Decidable (IsBlank cs) := List.decidableBAll _ cs

/-- Tokens one after the other, with blanks before each and behind the last. -/
inductive Spells : List Char → List Token → Prop
  | nil {blanks : List Char} (blank : IsBlank blanks) : Spells blanks []
  | cons {blanks w cs : List Char} {t : Token} {ts : List Token} (blank : IsBlank blanks)
    (first : Spelling w t) (rest : Spells cs ts) : Spells (blanks ++ w ++ cs) (t :: ts)

variable {cs ds w : List Char} {t : Token} {ts us : List Token}

theorem IsBlank.nil : IsBlank [] := List.forall_mem_nil _

theorem IsBlank.append (h : IsBlank cs) (h' : IsBlank ds) : IsBlank (cs ++ ds) :=
  fun c hc => (List.mem_append.1 hc).elim (h c) (h' c)

theorem Spelling.mark_eq {c : Char} (h : Spelling w (.mark c)) : w = [c] := by
  cases h
  rfl

theorem Spelling.text_eq {s : String} (h : Spelling w (.leaf (.str s))) :
    ∃ body, w = '"' :: body ++ ['"'] ∧ Body body s.toList := by
  cases h with
  | @text body s h => exact ⟨body, rfl, by rwa [String.toList_ofList]⟩
  | number digits value => rcases Numeral.value_cases value with ⟨k, hv⟩ | ⟨x, hv⟩ <;> cases hv

namespace Spells

theorem blank_left (hblank : IsBlank ds) (h : Spells cs ts) : Spells (ds ++ cs) ts := by
  cases h with
  | nil blank => exact .nil (hblank.append blank)
  | cons blank first rest =>
    rw [← List.append_assoc, ← List.append_assoc]
    exact .cons (hblank.append blank) first rest

theorem append (h : Spells cs ts) (h' : Spells ds us) : Spells (cs ++ ds) (ts ++ us) := by
  induction h with
  | nil blank => exact h'.blank_left blank
  | @cons blanks w cs t ts blank first rest ih =>
    rw [List.append_assoc]
    exact .cons blank first ih

theorem single (h : Spelling w t) : Spells w [t] := by
  simpa using Spells.cons .nil h (.nil .nil)

theorem mark (c : Char) : Spells [c] [.mark c] := single (.mark c)

theorem concat_blank {c : Char} (h : Spells cs ts) (hc : isSpace c = true) :
    Spells (cs ++ [c]) ts := by
  simpa using h.append (.nil (List.forall_mem_singleton.2 hc))

theorem split (h : Spells cs (ts ++ us)) :
    ∃ front back, cs = front ++ back ∧ Spells front ts ∧ Spells back us := by
  induction ts generalizing cs with
  | nil => exact ⟨[], cs, rfl, .nil .nil, h⟩
  | cons t ts ih =>
    cases h with
    | @cons blanks w cs _ _ blank first rest =>
      obtain ⟨front, back, rfl, hfront, hback⟩ := ih rest
      exact ⟨blanks ++ w ++ front, back, by simp, .cons blank first hfront, hback⟩

end Spells

def tokensBefore (items : List Json) : List Token :=
  items.flatMap fun j => j.tokens ++ [.mark ',']

def tokensMember (p : String × Json) : List Token :=
  .leaf (.str p.1) :: .mark ':' :: p.2.tokens

def tokensMembersBefore (members : List (String × Json)) : List Token :=
  members.flatMap fun p => tokensMember p ++ [.mark ',']

theorem tokensItems_cons (j k : Json) (js : List Json) :
    tokensItems (j :: k :: js) = j.tokens ++ .mark ',' :: tokensItems (k :: js) := rfl

theorem tokensMembers_cons (p q : String × Json) (ms : List (String × Json)) :
    tokensMembers (p :: q :: ms) = tokensMember p ++ .mark ',' :: tokensMembers (q :: ms) := rfl

theorem tokensItems_concat (items : List Json) (j : Json) :
    tokensItems (items ++ [j]) = tokensBefore items ++ j.tokens := by
  induction items with
  | nil => rfl
  | cons k ks ih =>
    have hcons : tokensItems (k :: (ks ++ [j])) =
        k.tokens ++ .mark ',' :: tokensItems (ks ++ [j]) := by
      cases ks <;> rfl
    rw [List.cons_append, hcons, ih]
    simp [tokensBefore]

theorem tokensMembers_concat (members : List (String × Json)) (p : String × Json) :
    tokensMembers (members ++ [p]) = tokensMembersBefore members ++ tokensMember p := by
  induction members with
  | nil => rfl
  | cons q qs ih =>
    have hcons : tokensMembers (q :: (qs ++ [p])) =
        tokensMember q ++ .mark ',' :: tokensMembers (qs ++ [p]) := by
      cases qs <;> rfl
    rw [List.cons_append, hcons, ih]
    simp [tokensMembersBefore]

/-- A text writes a value, repeated keys and the order of members included. -/
def Writes (text : String) (v : Json) : Prop := Spells text.toList v.tokens

end ClientAccess.Json
