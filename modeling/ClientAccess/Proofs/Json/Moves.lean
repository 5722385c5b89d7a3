import ClientAccess.Proofs.Json.Reading

/-! What one character does. Every step the machine takes is one of a few moves, and what all moves
keep is kept by a whole run. -/
namespace ClientAccess.Json

inductive BeginValue (limit : Nat) (stack : List Frame) : Char → Machine → Prop
  | numeral {c : Char} {k : Numeral} (begins : Numeral.begin? c = some k) :
    BeginValue limit stack c ⟨stack, .numeral k⟩
  | null : BeginValue limit stack 'n' ⟨stack, .word 'u' ['l', 'l'] .null⟩
  | true : BeginValue limit stack 't' ⟨stack, .word 'r' ['u', 'e'] (.bool true)⟩
  | false : BeginValue limit stack 'f' ⟨stack, .word 'a' ['l', 's', 'e'] (.bool false)⟩
  | text : BeginValue limit stack '"' ⟨stack, .text .value [] .none⟩
  | list (room : stack.length < limit) : BeginValue limit stack '[' ⟨stack, .firstItem⟩
  | object (room : stack.length < limit) : BeginValue limit stack '\x7b' ⟨stack, .firstKey⟩

inductive AfterValue (v : Json) : List Frame → Char → Machine → Prop
  | blank {stack : List Frame} {c : Char} (space : isSpace c = true) :
    AfterValue v stack c ⟨stack, .done v⟩
  | item {items : List Json} {rest : List Frame} :
    AfterValue v (.list items :: rest) ',' ⟨.list (v :: items) :: rest, .nextItem⟩
  | list {items : List Json} {rest : List Frame} :
    AfterValue v (.list items :: rest) ']' ⟨rest, .done (.arr (v :: items).reverse)⟩
  | member {members : List (String × Json)} {key : String} {rest : List Frame} :
    AfterValue v (.member members key :: rest) ',' ⟨rest, .nextKey ((key, v) :: members)⟩
  | object {members : List (String × Json)} {key : String} {rest : List Frame} :
    AfterValue v (.member members key :: rest) '\x7d'
      ⟨rest, .done (.obj ((key, v) :: members).reverse)⟩

def Mode.IsBefore : Mode → Prop
  | .value | .firstItem | .nextItem | .firstKey | .nextKey _ | .colon _ _ => True
  | _ => False

variable {limit : Nat} {stack : List Frame} {c : Char} {v : Json} {m n : Machine}

/-- One step. An object without members goes back to its first key on a blank. -/
inductive Moves (limit : Nat) : Machine → Char → Machine → Prop
  | blank {stack : List Frame} {mode : Mode} {c : Char} (space : isSpace c = true)
    (before : mode.IsBefore) : Moves limit ⟨stack, mode⟩ c ⟨stack, mode⟩
  | noMembers {stack : List Frame} {c : Char} (space : isSpace c = true) :
    Moves limit ⟨stack, .nextKey []⟩ c ⟨stack, .firstKey⟩
  | value {stack : List Frame} {c : Char} {n : Machine} (begins : BeginValue limit stack c n) :
    Moves limit ⟨stack, .value⟩ c n
  | firstItem {stack : List Frame} {c : Char} {n : Machine}
    (begins : BeginValue limit (.list [] :: stack) c n) : Moves limit ⟨stack, .firstItem⟩ c n
  | nextItem {stack : List Frame} {c : Char} {n : Machine} (begins : BeginValue limit stack c n) :
    Moves limit ⟨stack, .nextItem⟩ c n
  | emptyList {stack : List Frame} : Moves limit ⟨stack, .firstItem⟩ ']' ⟨stack, .done (.arr [])⟩
  | firstKey {stack : List Frame} :
    Moves limit ⟨stack, .firstKey⟩ '"' ⟨stack, .text (.key []) [] .none⟩
  | nextKey {stack : List Frame} {members : List (String × Json)} :
    Moves limit ⟨stack, .nextKey members⟩ '"' ⟨stack, .text (.key members) [] .none⟩
  | emptyObject {stack : List Frame} :
    Moves limit ⟨stack, .firstKey⟩ '\x7d' ⟨stack, .done (.obj [])⟩
  | colon {stack : List Frame} {members : List (String × Json)} {key : String} :
    Moves limit ⟨stack, .colon members key⟩ ':' ⟨.member members key :: stack, .value⟩
  | letter {stack : List Frame} {c l : Char} {letters : List Char} {v : Json} :
    Moves limit ⟨stack, .word c (l :: letters) v⟩ c ⟨stack, .word l letters v⟩
  | lastLetter {stack : List Frame} {c : Char} {v : Json} :
    Moves limit ⟨stack, .word c [] v⟩ c ⟨stack, .done v⟩
  | numeral {stack : List Frame} {c : Char} {k k' : Numeral} (next : k.next c = .ok (some k')) :
    Moves limit ⟨stack, .numeral k⟩ c ⟨stack, .numeral k'⟩
  | number {stack : List Frame} {c : Char} {k : Numeral} {v : Json} {n : Machine}
    (ends : k.next c = .ok none) (value : k.value = .ok v) (after : AfterValue v stack c n) :
    Moves limit ⟨stack, .numeral k⟩ c n
  | text {stack : List Frame} {purpose : Purpose} {chars chars' : List Char}
    {escape escape' : Escape} {c : Char}
    (next : inText stack purpose chars escape c = .ok ⟨stack, .text purpose chars' escape'⟩) :
    Moves limit ⟨stack, .text purpose chars escape⟩ c ⟨stack, .text purpose chars' escape'⟩
  | quote {stack : List Frame} {purpose : Purpose} {chars : List Char} :
    Moves limit ⟨stack, .text purpose chars .none⟩ '"'
      (closing stack (String.ofList chars.reverse) purpose)
  | done {stack : List Frame} {c : Char} {v : Json} {n : Machine} (after : AfterValue v stack c n) :
    Moves limit ⟨stack, .done v⟩ c n

theorem beginValue_cases (h : beginValue limit stack c = .ok n) : BeginValue limit stack c n := by
  have hroom {mode : Mode} (hopen : openContainer limit stack mode = .ok n) :
      stack.length < limit ∧ n = ⟨stack, mode⟩ := by
    unfold openContainer at hopen
    split at hopen
    · cases hopen
    · next hlimit =>
      cases hopen
      exact ⟨Nat.lt_of_not_le hlimit, rfl⟩
  unfold beginValue at h
  split at h
  · next k hk =>
    cases h
    exact .numeral hk
  split at h
  · next hc =>
    cases h
    rw [hc]
    exact .null
  split at h
  · next hc =>
    cases h
    rw [hc]
    exact .true
  split at h
  · next hc =>
    cases h
    rw [hc]
    exact .false
  split at h
  · next hc =>
    cases h
    rw [hc]
    exact .text
  split at h
  · next hc =>
    obtain ⟨hlt, rfl⟩ := hroom h
    rw [hc]
    exact .list hlt
  split at h
  · next hc =>
    obtain ⟨hlt, rfl⟩ := hroom h
    rw [hc]
    exact .object hlt
  · cases h

theorem afterValue_cases (h : afterValue stack v c = .ok n) : AfterValue v stack c n := by
  unfold afterValue at h
  split at h
  · next hc =>
    cases h
    exact .blank hc
  split at h
  · cases h
  · split at h
    · next hc =>
      cases h
      rw [hc]
      exact .item
    split at h
    · next hc =>
      cases h
      rw [hc]
      exact .list
    · cases h
  · split at h
    · next hc =>
      cases h
      rw [hc]
      exact .member
    split at h
    · next hc =>
      cases h
      rw [hc]
      exact .object
    · cases h

theorem inText_cases {purpose : Purpose} {chars : List Char} {escape : Escape}
    (h : inText stack purpose chars escape c = .ok n) :
    (∃ chars' escape', n = ⟨stack, .text purpose chars' escape'⟩) ∨
      c = '"' ∧ escape = .none ∧ n = closing stack (String.ofList chars.reverse) purpose := by
  unfold inText at h
  simp only at h
  cases escape with
  | none =>
    simp only at h
    split at h
    · next hc =>
      refine .inr ⟨hc, rfl, ?_⟩
      cases purpose <;> cases h <;> rfl
    split at h
    · cases h
      exact .inl ⟨_, _, rfl⟩
    split at h
    · cases h
    · cases h
      exact .inl ⟨_, _, rfl⟩
  | backslash =>
    simp only at h
    split at h
    · cases h
      exact .inl ⟨_, _, rfl⟩
    split at h
    · cases h
      exact .inl ⟨_, _, rfl⟩
    · cases h
  | hex digits lead =>
    simp only at h
    split at h
    · cases h
      exact .inl ⟨_, _, rfl⟩
    split at h
    · cases h
    · split at h
      · cases h
      split at h
      · cases h
        exact .inl ⟨_, _, rfl⟩
      · cases h
        exact .inl ⟨_, _, rfl⟩
    · split at h
      · cases h
        exact .inl ⟨_, _, rfl⟩
      · cases h
  | afterLead lead =>
    simp only at h
    split at h
    · cases h
      exact .inl ⟨_, _, rfl⟩
    · cases h
  | beforeLow lead =>
    simp only at h
    split at h
    · cases h
      exact .inl ⟨_, _, rfl⟩
    · cases h

theorem moves_of_step (h : m.step limit c = .ok n) : Moves limit m c n := by
  obtain ⟨stack, mode⟩ := m
  cases mode with
  | value =>
    simp only [Machine.step] at h
    split at h
    · next hc =>
      cases h
      exact .blank hc trivial
    · exact .value (beginValue_cases h)
  | firstItem =>
    simp only [Machine.step] at h
    split at h
    · next hc =>
      cases h
      exact .blank hc trivial
    split at h
    · next hc =>
      cases h
      rw [hc]
      exact .emptyList
    · exact .firstItem (beginValue_cases h)
  | nextItem =>
    simp only [Machine.step] at h
    split at h
    · next hc =>
      cases h
      exact .blank hc trivial
    split at h
    · cases h
    · exact .nextItem (beginValue_cases h)
  | firstKey =>
    simp only [Machine.step, beginKey] at h
    split at h
    · next hc =>
      cases h
      exact .blank hc trivial
    split at h
    · next hc =>
      cases h
      rw [hc]
      exact .firstKey
    split at h
    · next hc =>
      cases h
      rw [hc]
      exact .emptyObject
    · cases h
  | nextKey members =>
    simp only [Machine.step, beginKey] at h
    split at h
    · next hc =>
      cases h
      cases members with
      | nil => exact .noMembers hc
      | cons p ps => exact .blank hc trivial
    split at h
    · next hc =>
      cases h
      rw [hc]
      exact .nextKey
    split at h
    · cases h
    · cases h
  | colon members key =>
    simp only [Machine.step] at h
    split at h
    · next hc =>
      cases h
      exact .blank hc trivial
    split at h
    · next hc =>
      cases h
      rw [hc]
      exact .colon
    · cases h
  | word l letters v =>
    simp only [Machine.step] at h
    split at h
    · cases h
    · next hc =>
      obtain rfl : c = l := Decidable.byContradiction hc
      cases letters with
      | nil =>
        cases h
        exact .lastLetter
      | cons l' letters =>
        cases h
        exact .letter
  | numeral k =>
    simp only [Machine.step] at h
    split at h
    · next k' hnext =>
      cases h
      exact .numeral hnext
    · next hnext =>
      split at h
      · next v hv => exact .number hnext hv (afterValue_cases h)
      · cases h
    · cases h
    · cases h
  | text purpose chars escape =>
    rcases inText_cases h with ⟨chars', escape', rfl⟩ | ⟨rfl, rfl, rfl⟩
    · exact .text h
    · exact .quote
  | done v => exact .done (afterValue_cases h)

/-- What every move keeps of the machine and the characters taken holds where a run ends. -/
theorem Machine.exists_finish (P : Machine → List Char → Prop)
    (hmoves : ∀ {m c n cs}, P m cs → Moves limit m c n → P n (cs ++ [c]))
    (cs : List Char) {ds : List Char} {place : Position} (hm : P m cs)
    (hv : m.run limit place ds = .ok v) : ∃ k, P k (cs ++ ds) ∧ k.finish = .ok v := by
  induction ds generalizing m cs place with
  | nil => exact ⟨m, by rwa [List.append_nil], Machine.run_nil_eq_ok_iff.1 hv⟩
  | cons d ds ih =>
    obtain ⟨n, hstep, hrun⟩ := Machine.run_cons_eq_ok_iff.1 hv
    have hrest := ih (cs ++ [d]) (hmoves hm (moves_of_step hstep)) hrun
    rwa [List.append_assoc] at hrest

/-- A machine may end after a value that is no part of another. -/
theorem Machine.finish_cases (h : m.finish = .ok v) :
    m = ⟨[], .done v⟩ ∨ ∃ k : Numeral, m = ⟨[], .numeral k⟩ ∧ k.isComplete = true ∧
      k.value = .ok v := by
  have houter {stack : List Frame} {w : Json} (hend : endAfter stack w = .ok v) :
      stack = [] ∧ w = v := by
    unfold endAfter at hend
    split at hend
    · cases hend
      exact ⟨rfl, rfl⟩
    · cases hend
    · cases hend
  obtain ⟨stack, mode⟩ := m
  unfold Machine.finish at h
  cases mode with
  | done w =>
    obtain ⟨rfl, rfl⟩ := houter h
    exact .inl rfl
  | numeral k =>
    simp only at h
    split at h
    · next hcomplete =>
      split at h
      · next w hw =>
        obtain ⟨rfl, rfl⟩ := houter h
        exact .inr ⟨k, rfl, hcomplete, hw⟩
      · cases h
    · cases h
  | _ => cases h

end ClientAccess.Json
