import ClientAccess.Proofs.Json.Reading
import ClientAccess.Proofs.Json.Spelling

/-! Numerals. The machine for numerals takes exactly the characters that spell one: what it has
taken is a numeral or the beginning of one, and a numeral leads it to a place where it may end. -/
namespace ClientAccess.Json

namespace Numeral

variable {cs : List Char} {n m : Numeral} {c : Char} {d : Nat}

theorem digitChar_eq (h : digit? c = some d) : c = Nat.digitChar d ∧ d < 10 :=
  Text.digitValue?_eq_some_iff.1 h

theorem ofDigits_concat (start : Nat) (ds : List Nat) (d : Nat) :
    ofDigits start (ds ++ [d]) = ofDigits start ds * 10 + d := by
  simp [ofDigits]

theorem addExponent_eq_ok (h : n.addExponent d = .ok m) :
    m = { n with phase := .exponent, exponent := n.exponent * 10 + d } ∧
    (n.exponent * 10 + d ≤ exponentLimit ∨ n.isNought = true ∨ n.exponentNegative = true) := by
  unfold addExponent at h
  simp only at h
  split at h
  · cases h
  · next hrange =>
    cases h
    refine ⟨rfl, ?_⟩
    rcases Nat.lt_or_ge exponentLimit (n.exponent * 10 + d) with hlimit | hlimit
    · cases hnought : n.isNought with
      | true => exact .inr (.inl rfl)
      | false =>
        cases hnegative : n.exponentNegative with
        | true => exact .inr (.inr rfl)
        | false => exact absurd ⟨hlimit, by simp [hnought], by simp [hnegative]⟩ hrange
    · exact .inl hlimit

theorem addExponent_of_range
    (h : n.exponent * 10 + d ≤ exponentLimit ∨ n.isNought = true ∨ n.exponentNegative = true) :
    n.addExponent d = .ok { n with phase := .exponent, exponent := n.exponent * 10 + d } := by
  unfold addExponent
  simp only
  rw [if_neg]
  rintro ⟨hlimit, hnought, hnegative⟩
  rcases h with h | h | h
  · omega
  · simp [h] at hnought
  · simp [h] at hnegative

theorem IsDigits.single (h : d < 10) : IsDigits [d] :=
  ⟨List.cons_ne_nil d [], List.forall_mem_singleton.2 h⟩

theorem IsDigits.concat {ds : List Nat} (h : IsDigits ds) (hd : d < 10) : IsDigits (ds ++ [d]) :=
  ⟨by simp, List.forall_mem_append.2 ⟨h.decimal, List.forall_mem_singleton.2 hd⟩⟩

theorem Spells.isComplete (h : n.Spells cs) : n.isComplete = true := by
  cases h <;> rfl

theorem Spells.no_power (h : n.Spells cs) (hphase : n.phase ≠ .exponent) :
    n.exponent = 0 ∧ n.exponentNegative = false := by
  induction h with
  | nought => exact ⟨rfl, rfl⟩
  | whole => exact ⟨rfl, rfl⟩
  | fraction number phase digits ih =>
    refine ih ?_
    rcases phase with h | h <;> simp [h]
  | power => exact absurd rfl hphase

/-- What has been taken of a numeral: all of one, or what goes before its next digit. -/
inductive Reached : List Char → Numeral → Prop
  | complete {cs : List Char} {n : Numeral} (number : n.Spells cs) : Reached cs n
  | sign : Reached ['-'] (start true .sign [])
  | point {cs : List Char} {n : Numeral} (number : n.Spells cs)
    (phase : n.phase = .zero ∨ n.phase = .whole) : Reached (cs ++ ['.']) { n with phase := .point }
  | mark {cs : List Char} {n : Numeral} {m : Char} (number : n.Spells cs)
    (phase : n.phase ≠ .exponent) (mark : isMark m = true) :
    Reached (cs ++ [m]) { n with phase := .mark }
  | markSign {cs : List Char} {n : Numeral} {m s : Char} (number : n.Spells cs)
    (phase : n.phase ≠ .exponent) (mark : isMark m = true) (signed : s = '+' ∨ s = '-') :
    Reached (cs ++ [m, s]) { n with phase := .markSign, exponentNegative := s == '-' }

theorem Reached.spells (h : Reached cs n) (hn : n.isComplete = true) : n.Spells cs := by
  cases h with
  | complete number => exact number
  | _ => cases hn

theorem reached_begin (h : begin? c = some n) : Reached [c] n := by
  unfold begin? at h
  split at h
  · next hc =>
    cases h
    rw [hc]
    exact .sign
  split at h
  · next hc =>
    cases h
    rw [hc]
    exact .complete (.nought false)
  · next hzero =>
    obtain ⟨d, hd, rfl⟩ := Option.map_eq_some_iff.1 h
    obtain ⟨rfl, hlt⟩ := digitChar_eq hd
    have hfront : [d].head? ≠ some 0 := by
      rintro ⟨⟩
      exact hzero rfl
    exact .complete (.whole false (.single hlt) hfront)

theorem eq_ok_of_map {x : Except Refusal Numeral} (h : x.map some = .ok (some m)) : x = .ok m := by
  cases x with
  | error refusal => cases h
  | ok k =>
    cases h
    rfl

theorem Spells.digit (h : n.Spells cs) (hd : digit? c = some d) (hn : n.next c = .ok (some m)) :
    m.Spells (cs ++ [c]) := by
  obtain ⟨rfl, hlt⟩ := digitChar_eq hd
  cases h with
  | nought negative => simp [next, start, hd] at hn
  | @whole negative ds digits front =>
    simp only [next, start, hd, Except.ok.injEq, Option.some.injEq] at hn
    subst hn
    have hfront : (ds ++ [d]).head? ≠ some 0 := by
      cases ds with
      | nil => exact absurd rfl digits.some
      | cons e es => exact front
    simpa [start] using Spells.whole negative (digits.concat hlt) hfront
  | @fraction cs n ds number phase digits =>
    simp only [next, hd, Except.ok.injEq, Option.some.injEq] at hn
    subst hn
    simpa using Spells.fraction number phase (digits.concat hlt)
  | @power cs sign n m ds number phase mark signed digits range =>
    simp only [next, hd] at hn
    obtain ⟨rfl, hrange⟩ := addExponent_eq_ok (eq_ok_of_map hn)
    have hpower : ofDigits 0 (ds ++ [d]) ≤ exponentLimit ∨ n.isNought = true ∨ sign = ['-'] := by
      rw [ofDigits_concat]
      exact hrange.imp_right (Or.imp_right fun h => by simpa using h)
    simpa [ofDigits_concat] using Spells.power number phase mark signed (digits.concat hlt) hpower

theorem Spells.mark (h : n.Spells cs) (hd : digit? c = none) (hn : n.next c = .ok (some m)) :
    Reached (cs ++ [c]) m := by
  have hmark (hphase : n.phase ≠ .exponent) (hm : isMark c = true)
      (hsame : { n with phase := .mark } = m) : Reached (cs ++ [c]) m := by
    rw [← hsame]
    exact .mark h hphase hm
  cases hphase : n.phase with
  | zero | whole =>
    simp only [next, hphase, hd] at hn
    split at hn
    · next hc =>
      cases hn
      rw [hc]
      exact .point h (by simp [hphase])
    split at hn
    · next hm => exact hmark (by simp [hphase]) hm (by simpa using hn)
    · cases hn
  | fraction =>
    simp only [next, hphase, hd] at hn
    split at hn
    · next hm => exact hmark (by simp [hphase]) hm (by simpa using hn)
    · cases hn
  | exponent => simp [next, hphase, hd] at hn
  | _ =>
    have hcomplete := h.isComplete
    simp [Numeral.isComplete, hphase] at hcomplete

theorem Reached.next (h : Reached cs n) (hn : n.next c = .ok (some m)) :
    Reached (cs ++ [c]) m := by
  cases hd : digit? c with
  | none =>
    cases h with
    | complete number => exact number.mark hd hn
    | sign => simp [Numeral.next, start, hd] at hn
    | point number phase => simp [Numeral.next, hd] at hn
    | @mark cs n e number phase mark =>
      simp only [Numeral.next, hd] at hn
      split at hn
      · next hc =>
        cases hn
        have hpositive : n.exponentNegative = false := (number.no_power phase).2
        simpa [hc, hpositive] using Reached.markSign number phase mark (.inl rfl)
      split at hn
      · next hc =>
        cases hn
        simpa [hc] using Reached.markSign number phase mark (.inr rfl)
      · cases hn
    | markSign number phase mark signed => simp [Numeral.next, hd] at hn
  | some d =>
    obtain ⟨hc, hlt⟩ := digitChar_eq hd
    refine .complete ?_
    cases h with
    | complete number => exact number.digit hd hn
    | sign =>
      cases d with
      | zero =>
        simp only [Numeral.next, start, hd, Except.ok.injEq, Option.some.injEq] at hn
        subst hn
        rw [hc]
        exact .nought true
      | succ d =>
        simp only [Numeral.next, start, hd, Except.ok.injEq, Option.some.injEq] at hn
        subst hn
        rw [hc]
        exact .whole true (.single hlt) (by simp)
    | @point cs n number phase =>
      simp only [Numeral.next, hd, Except.ok.injEq, Option.some.injEq] at hn
      subst hn
      rw [hc]
      simpa using Spells.fraction number phase (.single hlt)
    | @mark cs n e number phase mark =>
      simp only [Numeral.next, hd] at hn
      obtain ⟨rfl, hrange⟩ := addExponent_eq_ok (eq_ok_of_map hn)
      obtain ⟨hexponent, hpositive⟩ := number.no_power phase
      have hpower := Spells.power number phase mark (.inl rfl) (.single hlt)
        (by simpa [ofDigits, hexponent, hpositive, isNought] using hrange)
      simpa [hc, ofDigits, hexponent, hpositive] using hpower
    | @markSign cs n e s number phase mark signed =>
      simp only [Numeral.next, hd] at hn
      obtain ⟨rfl, hrange⟩ := addExponent_eq_ok (eq_ok_of_map hn)
      have hexponent : n.exponent = 0 := (number.no_power phase).1
      have hsign : [s] = [] ∨ [s] = ['+'] ∨ [s] = ['-'] := by simpa using signed
      have hpower := Spells.power number phase mark hsign (.single hlt)
        (by simpa [ofDigits, hexponent, isNought] using hrange)
      simpa [hc, ofDigits, hexponent] using hpower

theorem isComplete_of_next (h : n.next c = .ok none) : n.isComplete = true := by
  have hpower (d : Nat) : (n.addExponent d).map some ≠ .ok none := by
    cases n.addExponent d <;> simp [Except.map]
  cases hphase : n.phase with
  | zero | whole | fraction | exponent => simp [isComplete, hphase]
  | sign =>
    cases hd : digit? c with
    | none => simp [Numeral.next, hphase, hd] at h
    | some d => cases d <;> simp [Numeral.next, hphase, hd] at h
  | point => cases hd : digit? c <;> simp [Numeral.next, hphase, hd] at h
  | mark =>
    cases hd : digit? c with
    | some d =>
      simp only [Numeral.next, hphase, hd] at h
      exact absurd h (hpower d)
    | none =>
      simp only [Numeral.next, hphase, hd] at h
      split at h
      · cases h
      split at h <;> cases h
  | markSign =>
    cases hd : digit? c with
    | some d =>
      simp only [Numeral.next, hphase, hd] at h
      exact absurd h (hpower d)
    | none => simp [Numeral.next, hphase, hd] at h

variable {limit : Nat} {stack : List Frame} {ds : List Nat}

/-- A numeral begins with the first of the characters, and the others lead the machine to `n`. -/
def Opens (limit : Nat) (stack : List Frame) (cs : List Char) (n : Numeral) : Prop :=
  ∃ c rest k, cs = c :: rest ∧ begin? c = some k ∧
    Machine.Takes limit ⟨stack, .numeral k⟩ rest ⟨stack, .numeral n⟩

theorem Opens.append {rest : List Char} (h : Opens limit stack cs n)
    (h' : Machine.Takes limit ⟨stack, .numeral n⟩ rest ⟨stack, .numeral m⟩) :
    Opens limit stack (cs ++ rest) m := by
  obtain ⟨c, front, k, rfl, hbegin, htake⟩ := h
  exact ⟨c, front ++ rest, k, rfl, hbegin, htake.append h'⟩

theorem takes_next {rest : List Char} {k : Machine} (h : n.next c = .ok (some m))
    (h' : Machine.Takes limit ⟨stack, .numeral m⟩ rest k) :
    Machine.Takes limit ⟨stack, .numeral n⟩ (c :: rest) k := by
  refine Machine.Takes.cons ?_ h'
  simp [Machine.step, h]

theorem takes_fraction (hphase : n.phase = .fraction) (h : ∀ d ∈ ds, d < 10) :
    Machine.Takes limit ⟨stack, .numeral n⟩ (ds.map Nat.digitChar)
      ⟨stack, .numeral { n with fraction := n.fraction ++ ds }⟩ := by
  induction ds generalizing n with
  | nil => simpa using Machine.Takes.nil
  | cons d ds ih =>
    have hd := digit?_digitChar d (h d List.mem_cons_self)
    have hnext : n.next (Nat.digitChar d) = .ok (some { n with fraction := n.fraction ++ [d] }) := by
      simp [Numeral.next, hphase, hd]
    refine takes_next hnext ?_
    have hrest := ih (n := { n with fraction := n.fraction ++ [d] }) hphase
      fun e he => h e (List.mem_cons_of_mem d he)
    simpa using hrest

theorem takes_power (hphase : n.phase = .mark ∨ n.phase = .markSign ∨ n.phase = .exponent)
    (hds : IsDigits ds) (hrange : ofDigits n.exponent ds ≤ exponentLimit ∨ n.isNought = true ∨
      n.exponentNegative = true) :
    Machine.Takes limit ⟨stack, .numeral n⟩ (ds.map Nat.digitChar)
      ⟨stack, .numeral { n with phase := .exponent, exponent := ofDigits n.exponent ds }⟩ := by
  obtain ⟨hne, hdecimal⟩ := hds
  induction ds generalizing n with
  | nil => exact absurd rfl hne
  | cons d ds ih =>
    have hd := digit?_digitChar d (hdecimal d List.mem_cons_self)
    have hle : n.exponent * 10 + d ≤ ofDigits n.exponent (d :: ds) := le_ofDigits _ ds
    have hadd := addExponent_of_range (n := n) (d := d)
      (hrange.imp_left fun h => Nat.le_trans hle h)
    have hnext : n.next (Nat.digitChar d) =
        .ok (some { n with phase := .exponent, exponent := n.exponent * 10 + d }) := by
      rcases hphase with h | h | h <;> simp [Numeral.next, h, hd, hadd, Except.map]
    refine takes_next hnext ?_
    cases ds with
    | nil => exact Machine.Takes.nil
    | cons e ds =>
      exact ih (n := { n with phase := .exponent, exponent := n.exponent * 10 + d })
        (.inr (.inr rfl)) hrange (List.cons_ne_nil e ds)
        fun f hf => hdecimal f (List.mem_cons_of_mem d hf)

theorem opens_nought (negative : Bool) :
    Opens limit stack (signChars negative ++ ['0']) (start negative .zero [0]) := by
  cases negative with
  | false => exact ⟨'0', [], _, rfl, rfl, Machine.Takes.nil⟩
  | true => exact ⟨'-', ['0'], _, rfl, rfl, takes_next rfl Machine.Takes.nil⟩

theorem opens_whole (negative : Bool) (hds : IsDigits ds) (hfront : ds.head? ≠ some 0) :
    Opens limit stack (signChars negative ++ ds.map Nat.digitChar) (start negative .whole ds) := by
  obtain ⟨hne, hdecimal⟩ := hds
  cases ds with
  | nil => exact absurd rfl hne
  | cons d ds =>
    have hlt := hdecimal d List.mem_cons_self
    have hd := digit?_digitChar d hlt
    have hpos : 0 < d := Nat.pos_of_ne_zero fun h => hfront (by rw [h]; rfl)
    have hrest : ∀ e ∈ ds, e < 10 := fun e he => hdecimal e (List.mem_cons_of_mem d he)
    have htake (sign : Bool) : Machine.Takes limit ⟨stack, .numeral (start sign .whole [d])⟩
        (ds.map Nat.digitChar) ⟨stack, .numeral (start sign .whole (d :: ds))⟩ :=
      takes_digits sign [d] ds hrest
    cases negative with
    | false =>
      obtain ⟨-, -, hsign, hnought⟩ := digitChar_ne d hlt hpos
      exact ⟨_, _, start false .whole [d], rfl, by simp [begin?, hsign, hnought, hd], htake false⟩
    | true =>
      have hnext : (start true .sign []).next (Nat.digitChar d) =
          .ok (some (start true .whole [d])) := by
        cases d with
        | zero => exact absurd hpos (Nat.lt_irrefl 0)
        | succ d => simp [Numeral.next, start, hd]
      exact ⟨'-', _, _, rfl, rfl, takes_next hnext (htake true)⟩

theorem isMark_ne (h : isMark c = true) : digit? c = none ∧ c ≠ '.' := by
  have hc : c = 'e' ∨ c = 'E' := by simpa [isMark] using h
  rcases hc with rfl | rfl <;> decide

theorem Spells.opens (h : n.Spells cs) : Opens limit stack cs n := by
  induction h with
  | nought negative => exact opens_nought negative
  | whole negative digits front => exact opens_whole negative digits front
  | @fraction cs n ds number phase digits ih =>
    refine ih.append (takes_next (m := { n with phase := .point }) ?_ ?_)
    · have hpoint : digit? '.' = none := by decide
      rcases phase with h | h <;> simp [Numeral.next, h, hpoint]
    · obtain ⟨hne, hdecimal⟩ := digits
      cases ds with
      | nil => exact absurd rfl hne
      | cons d ds =>
        have hd := digit?_digitChar d (hdecimal d List.mem_cons_self)
        refine takes_next (m := { n with phase := .fraction, fraction := [d] }) ?_ ?_
        · simp [Numeral.next, hd]
        · exact takes_fraction rfl fun e he => hdecimal e (List.mem_cons_of_mem d he)
  | @power cs sign n m ds number phase mark signed digits range ih =>
    obtain ⟨hdigit, hpoint⟩ := isMark_ne mark
    obtain ⟨hexponent, hpositive⟩ := number.no_power phase
    have hmark : n.next m = .ok (some { n with phase := .mark }) := by
      have hcomplete := number.isComplete
      cases hphase : n.phase with
      | zero | whole | fraction => simp [Numeral.next, hphase, hdigit, hpoint, mark]
      | exponent => exact absurd hphase phase
      | _ => simp [Numeral.isComplete, hphase] at hcomplete
    have hpower {k : Numeral} (hk : k.phase = .mark ∨ k.phase = .markSign)
        (hzero : k.exponent = 0) (hrange : ofDigits 0 ds ≤ exponentLimit ∨ k.isNought = true ∨
          k.exponentNegative = true) :
        Machine.Takes limit ⟨stack, .numeral k⟩ (ds.map Nat.digitChar)
          ⟨stack, .numeral { k with phase := .exponent, exponent := ofDigits 0 ds }⟩ := by
      rw [← hzero] at hrange ⊢
      exact takes_power (hk.imp_right .inl) digits hrange
    rw [List.append_assoc]
    refine ih.append (takes_next hmark ?_)
    rcases signed with rfl | rfl | rfl
    · have htake := hpower (k := { n with phase := .mark }) (.inl rfl) hexponent
        (range.imp_right fun h => .inl (by simpa [isNought] using h))
      simpa [hpositive] using htake
    · refine takes_next (m := { n with phase := .markSign }) rfl ?_
      have htake := hpower (k := { n with phase := .markSign }) (.inr rfl) hexponent
        (range.imp_right fun h => .inl (by simpa [isNought] using h))
      simpa [hpositive] using htake
    · refine takes_next (m := { n with phase := .markSign, exponentNegative := true }) rfl ?_
      exact hpower (.inr rfl) hexponent (.inr (.inr rfl))

end Numeral

end ClientAccess.Json
