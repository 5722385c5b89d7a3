import ClientAccess.Proofs.Json.Moves
import ClientAccess.Proofs.Json.RoundTrip

/-! What a text that has been written is read as. Doubles are read with a rounding of their own, so a
value with doubles need not come back; but what comes back has its outline, the value without its
numbers. Of the text of a number nothing matters but where it ends. -/
namespace ClientAccess.Json

open Machine (Takes)

mutual
/-- The value with nought for every number. -/
def outline : Json → Json
  | int _ => int 0
  | float _ => int 0
  | arr items => arr (outlineItems items)
  | obj members => obj (outlineMembers members)
  | j => j

def outlineItems : List Json → List Json
  | [] => []
  | j :: js => outline j :: outlineItems js

def outlineMembers : List (String × Json) → List (String × Json)
  | [] => []
  | (key, j) :: ms => (key, outline j) :: outlineMembers ms
end

theorem outlineItems_eq_map (js : List Json) : outlineItems js = js.map outline := by
  induction js with
  | nil => rfl
  | cons j js ih => rw [outlineItems, ih, List.map_cons]

theorem outlineMembers_eq_map (ms : List (String × Json)) :
    outlineMembers ms = ms.map fun p => (p.1, p.2.outline) := by
  induction ms with
  | nil => rfl
  | cons p ms ih => rw [outlineMembers, ih, List.map_cons]

theorem member?_outline (key : String) (j : Json) :
    j.outline.member? key = (j.member? key).map outline := by
  cases j with
  | obj members => rw [outline, outlineMembers_eq_map, member?, Entries.find?_map, member?]
  | _ => rfl

theorem outline_value {n : Numeral} {v : Json} (h : n.value = .ok v) : v.outline = int 0 := by
  obtain ⟨k, rfl⟩ | ⟨x, rfl⟩ := Numeral.value_cases h
  · rfl
  · rfl

variable {limit : Nat} {stack : List Frame} {m n : Machine} {cs ds : List Char} {c : Char}
  {o v : Json} {P Q : Machine → Prop}

/-- A run over the characters that ends in a value has a machine of a kind right behind them. -/
def Machine.Leads (limit : Nat) (m : Machine) (cs : List Char) (P : Machine → Prop) : Prop :=
  ∀ place rest v, m.run limit place (cs ++ rest) = .ok v →
    ∃ n later, P n ∧ n.run limit later rest = .ok v

namespace Machine.Leads

theorem of_takes (h : Takes limit m cs n) (hn : P n) : m.Leads limit cs P := by
  intro place rest v hrun
  obtain ⟨later, hlater⟩ := h place rest
  exact ⟨n, later, hn, hlater ▸ hrun⟩

theorem append (h : m.Leads limit cs P) (h' : ∀ n, P n → n.Leads limit ds Q) :
    m.Leads limit (cs ++ ds) Q := by
  intro place rest v hrun
  rw [List.append_assoc] at hrun
  obtain ⟨n, middle, hn, hmiddle⟩ := h place (ds ++ rest) v hrun
  exact h' n hn middle rest v hmiddle

theorem cons (h : ∀ n, m.step limit c = .ok n → n.Leads limit cs P) :
    m.Leads limit (c :: cs) P := by
  intro place rest v hrun
  obtain ⟨n, hstep, hrest⟩ := Machine.run_cons_eq_ok_iff.1 hrun
  exact h n hstep _ rest v hrest

theorem nil (h : P m) : m.Leads limit [] P := fun place _ _ hrun => ⟨m, place, h, hrun⟩

end Machine.Leads

def IsEnd (c : Char) : Prop := c = ',' ∨ c = ']' ∨ c = '\x7d'

/-- The machine has read a value with an outline, or all of a number but what tells its end. -/
structure Machine.Carries (limit : Nat) (stack : List Frame) (o : Json) (m : Machine) : Prop where
  finish : ∀ v, m.finish = .ok v → ∃ w, w.outline = o ∧ endAfter stack w = .ok v
  step : ∀ c n, IsEnd c → m.step limit c = .ok n → ∃ w, w.outline = o ∧ afterValue stack w c = .ok n

theorem endsValue_of_isEnd (h : IsEnd c) : endsValue c = true := by
  obtain rfl | rfl | rfl := h <;> decide

theorem Machine.Holds.carries (h : m.Holds limit stack v) : m.Carries limit stack v.outline where
  finish := by
    intro w hw
    exact ⟨v, rfl, h.finish ▸ hw⟩
  step := by
    intro c n hc hn
    exact ⟨v, rfl, h.step c (endsValue_of_isEnd hc) ▸ hn⟩

theorem next_of_isEnd (h : IsEnd c) (k : Numeral) :
    k.next c = .ok none ∨ ∃ refusal, k.next c = .error refusal := by
  have hc : Numeral.digit? c = none ∧ c ≠ '.' ∧ Numeral.isMark c = false ∧ c ≠ '+' ∧ c ≠ '-' := by
    obtain rfl | rfl | rfl := h <;> decide
  obtain ⟨hdigit, hpoint, hmark, hplus, hminus⟩ := hc
  cases hphase : k.phase with
  | zero | whole | fraction | exponent =>
    exact .inl (by simp [Numeral.next, hphase, hdigit, hpoint, hmark])
  | sign | point | mark | markSign =>
    exact .inr ⟨.malformed, by simp [Numeral.next, hphase, hdigit, hplus, hminus]⟩

theorem carries_numeral (k : Numeral) :
    Machine.Carries limit stack (int 0) ⟨stack, .numeral k⟩ where
  finish := by
    intro v hv
    simp only [Machine.finish] at hv
    split at hv
    · split at hv
      · next w hw => exact ⟨w, outline_value hw, hv⟩
      · cases hv
    · cases hv
  step := by
    intro c n hc hn
    obtain hnext | ⟨refusal, hnext⟩ := next_of_isEnd hc k
    · simp only [Machine.step, hnext] at hn
      split at hn
      · next w hw => exact ⟨w, outline_value hw, hn⟩
      · cases hn
    · simp only [Machine.step, hnext] at hn
      cases refusal <;> cases hn

def isInNumber (c : Char) : Bool := c.isDigit || c == '.' || c == 'e' || c == '+' || c == '-'

theorem isInNumber_of_isDigit (h : c.isDigit = true) : isInNumber c = true := by
  simp [isInNumber, h]

theorem isInNumber_of_isSpace (h : isSpace c = true) : isInNumber c = false := by
  obtain rfl | rfl | rfl | rfl := isSpace_cases h <;> decide

/-- A number that has begun goes on with these, as nothing that stands behind a value is one. -/
theorem leads_numeral (h : ∀ c ∈ cs, isInNumber c = true) (k : Numeral) :
    Machine.Leads limit ⟨stack, .numeral k⟩ cs (Machine.Carries limit stack (int 0)) := by
  induction cs generalizing k with
  | nil => exact .nil (carries_numeral k)
  | cons c cs ih =>
    obtain ⟨hc, hrest⟩ := List.forall_mem_cons.1 h
    refine .cons fun n hn => ?_
    cases moves_of_step hn with
    | blank space before => exact before.elim
    | numeral next => exact ih hrest _
    | number ends value after =>
      cases after with
      | blank space =>
        rw [isInNumber_of_isSpace space] at hc
        cases hc
      | _ => exact absurd hc (by decide)

structure IsUnsigned (cs : List Char) : Prop where
  first : ∃ c, cs.head? = some c ∧ c.isDigit = true
  all : ∀ c ∈ cs, isInNumber c = true

namespace IsUnsigned

theorem append (h : IsUnsigned cs) (h' : ∀ c ∈ ds, isInNumber c = true) :
    IsUnsigned (cs ++ ds) where
  first := by
    obtain ⟨c, hc, hdigit⟩ := h.first
    exact ⟨c, by rw [List.head?_append, hc, Option.some_or], hdigit⟩
  all := List.forall_mem_append.2 ⟨h.all, h'⟩

theorem toDigits (k : Nat) : IsUnsigned (Nat.toDigits 10 k) where
  first := by
    obtain ⟨c, cs, hchars⟩ := List.exists_cons_of_ne_nil (Nat.toDigits_ne_nil (n := k) (b := 10))
    have hc : c ∈ Nat.toDigits 10 k := hchars ▸ List.mem_cons_self
    exact ⟨c, by rw [hchars]; rfl, Nat.isDigit_of_mem_toDigits (by decide) (by decide) hc⟩
  all := fun _ hc =>
    isInNumber_of_isDigit (Nat.isDigit_of_mem_toDigits (by decide) (by decide) hc)

theorem take (h : IsUnsigned cs) (k : Nat) : IsUnsigned (cs.take (k + 1)) where
  first := by rw [List.head?_take]; exact h.first
  all := fun c hc => h.all c (List.mem_of_mem_take hc)

theorem positional (h : IsUnsigned cs) (places : Int) :
    IsUnsigned (Decimal.positional cs places) := by
  have hnought : IsUnsigned ['0', '.'] := ⟨⟨'0', rfl, rfl⟩, List.all_eq_true.1 rfl⟩
  have hzeros (k : Nat) : ∀ c ∈ Decimal.zeros k, isInNumber c = true := by
    intro c hc
    rw [List.eq_of_mem_replicate hc]
    decide
  unfold Decimal.positional
  split
  · exact (hnought.append (hzeros _)).append h.all
  · exact hnought.append h.all
  · next k hk =>
    split
    · exact (h.append (hzeros _)).append (List.all_eq_true.1 rfl)
    · obtain ⟨k, rfl⟩ := Nat.exists_eq_succ_of_ne_zero hk
      exact (h.take k).append
        (List.forall_mem_cons.2 ⟨by decide, fun c hc => h.all c (List.mem_of_mem_drop hc)⟩)

theorem exponential (h : IsUnsigned cs) (power : Int) :
    IsUnsigned (Decimal.exponential cs power) := by
  have hmark : ∀ c ∈ (if power < 0 then ['e', '-'] else ['e', '+']), isInNumber c = true := by
    split <;> exact List.all_eq_true.1 rfl
  refine (IsUnsigned.append ?_ hmark).append (toDigits _).all
  split
  · exact h
  · exact h
  · next d ds _ =>
    obtain ⟨hd, hds⟩ := List.forall_mem_cons.1 h.all
    exact ⟨h.first, List.forall_mem_cons.2 ⟨hd, List.forall_mem_cons.2 ⟨by decide, hds⟩⟩⟩

end IsUnsigned

theorem isSome_begin?_digitChar : ∀ d < 10,
    (Numeral.begin? (Nat.digitChar d)).isSome = true := by
  decide

namespace Machine.Awaits

theorem leads_leaf (h : m.Awaits limit stack) (hcs : Spelling cs (.leaf v)) :
    m.Leads limit cs (Machine.Carries limit stack v.outline) := by
  obtain ⟨k, htake, hholds⟩ := h.leaf (.single hcs)
  exact .of_takes htake hholds.carries

theorem leads_begun {k : Numeral} (h : m.Awaits limit stack) (hc : Numeral.begin? c = some k)
    (hcs : ∀ c ∈ cs, isInNumber c = true) :
    m.Leads limit (c :: cs) (Machine.Carries limit stack (int 0)) := by
  obtain ⟨hspace, hclose⟩ := Numeral.begin?_ne hc
  refine .cons fun n hn => ?_
  rw [h.begins c hspace hclose, beginValue, hc] at hn
  cases hn
  exact leads_numeral hcs k

theorem leads_unsigned (h : m.Awaits limit stack) (hcs : IsUnsigned cs) :
    m.Leads limit cs (Machine.Carries limit stack (int 0)) := by
  obtain ⟨c, hc, hdigit⟩ := hcs.first
  obtain ⟨rest, rfl⟩ := List.head?_eq_some_iff.1 hc
  obtain ⟨d, hd, rfl⟩ := Text.exists_digitChar hdigit
  obtain ⟨k, hk⟩ := Option.isSome_iff_exists.1 (isSome_begin?_digitChar d hd)
  exact h.leads_begun hk (List.forall_mem_cons.1 hcs.all).2

theorem leads_int (h : m.Awaits limit stack) (k : Int) :
    m.Leads limit (intChars k) (Machine.Carries limit stack (int 0)) := by
  cases k with
  | ofNat k => exact h.leads_unsigned (.toDigits k)
  | negSucc k => exact h.leads_begun rfl (IsUnsigned.toDigits (k + 1)).all

theorem leads_float (h : m.Awaits limit stack) (x : Binary64) :
    m.Leads limit (doubleLayout.chars x) (Machine.Carries limit stack (int 0)) := by
  unfold Decimal.Layout.chars
  simp only
  have hbody {p : Prop} [Decidable p] (digits : Nat) (places power : Int) :
      IsUnsigned (if p then Decimal.positional (Nat.toDigits 10 digits) places
        else Decimal.exponential (Nat.toDigits 10 digits) power) := by
    split
    · exact (IsUnsigned.toDigits digits).positional places
    · exact (IsUnsigned.toDigits digits).exponential power
  split
  · exact h.leads_begun rfl (hbody _ _ _).all
  · exact h.leads_unsigned (hbody _ _ _)

theorem leads_open {mode : Mode} (h : m.Awaits limit stack)
    (hc : c = '[' ∧ mode = .firstItem ∨ c = '\x7b' ∧ mode = .firstKey)
    (hcs : Machine.Leads limit ⟨stack, mode⟩ cs P) : m.Leads limit (c :: cs) P := by
  refine .cons fun n hn => ?_
  obtain ⟨rfl, rfl⟩ | ⟨rfl, rfl⟩ := hc
  · rw [h.begins _ rfl (by decide)] at hn
    cases beginValue_cases hn with
    | numeral begins => cases begins
    | list room => exact hcs
  · rw [h.begins _ rfl (by decide)] at hn
    cases beginValue_cases hn with
    | numeral begins => cases begins
    | object room => exact hcs

end Machine.Awaits

theorem Machine.Leads.mark (h : m.Leads limit cs (Machine.Carries limit stack o)) (hc : IsEnd c)
    (hds : ∀ w n, w.outline = o → afterValue stack w c = .ok n → n.Leads limit ds P) :
    m.Leads limit (cs ++ c :: ds) P := by
  refine h.append fun n hn => .cons fun n' hn' => ?_
  obtain ⟨w, hw, hafter⟩ := hn.step c n' hc hn'
  exact hds w n' hw hafter

theorem Machine.Leads.close {outer : List Frame}
    (h : m.Leads limit cs (Machine.Carries limit stack o)) (hc : IsEnd c)
    (hclosed : ∀ w n, w.outline = o → afterValue stack w c = .ok n →
      ∃ u, n = ⟨outer, .done u⟩ ∧ u.outline = v) :
    m.Leads limit (cs ++ [c]) (Machine.Carries limit outer v) := by
  refine h.mark hc fun w n hw hafter => ?_
  obtain ⟨u, rfl, rfl⟩ := hclosed w n hw hafter
  exact .nil (holds_done limit outer u).carries

theorem Machine.AtKey.leads {done : List (String × Json)} {key : String}
    (h : m.AtKey limit stack done)
    (hcs : Machine.Leads limit ⟨.member done key :: stack, .value⟩ cs P) :
    m.Leads limit (textChars key ++ ':' :: cs) P := by
  have hspells : Spells (textChars key ++ [':']) [.leaf (.str key), .mark ':'] :=
    (Spells.single (spelling_text key)).append (.mark ':')
  obtain ⟨front, rest, hsplit, htake, hrest⟩ := h.takes hspells
  cases hrest with
  | nil hblank =>
    have hkey := htake.append ((awaits_value limit _).skips.takes hblank)
    rw [← hsplit] at hkey
    have hvalue := (Machine.Leads.of_takes hkey rfl).append fun n hn => hn.symm ▸ hcs
    simpa using hvalue

theorem compactItems_cons (j k : Json) (js : List Json) :
    compactItems (j :: k :: js) = compactChars j ++ ',' :: compactItems (k :: js) := rfl

theorem compactMembers_cons (key : String) (j : Json) (p : String × Json)
    (ms : List (String × Json)) :
    compactMembers ((key, j) :: p :: ms) =
      textChars key ++ ':' :: compactChars j ++ ',' :: compactMembers (p :: ms) := rfl

mutual
/-- The text of a value is read as one with its outline, if it is read at all. -/
theorem leads_value (limit : Nat) (stack : List Frame) : ∀ (j : Json) (m : Machine),
    m.Awaits limit stack → m.Leads limit (compactChars j) (Machine.Carries limit stack j.outline)
  | .null, _, hm => hm.leads_leaf .null
  | .bool true, _, hm => hm.leads_leaf .true
  | .bool false, _, hm => hm.leads_leaf .false
  | .int k, _, hm => hm.leads_int k
  | .float x, _, hm => hm.leads_float x
  | .str s, _, hm => hm.leads_leaf (spelling_text s)
  | .arr [], _, hm => by
    refine hm.leads_open (.inl ⟨rfl, rfl⟩) ?_
    exact .of_takes (.single rfl) (holds_done limit stack _).carries
  | .arr (j :: js), _, hm =>
    hm.leads_open (.inl ⟨rfl, rfl⟩)
      (leads_items limit stack (j :: js) [] _ (List.cons_ne_nil j js) (awaits_firstItem limit stack))
  | .obj [], _, hm => by
    refine hm.leads_open (.inr ⟨rfl, rfl⟩) ?_
    exact .of_takes (.single rfl) (holds_done limit stack _).carries
  | .obj (p :: ms), _, hm =>
    hm.leads_open (.inr ⟨rfl, rfl⟩)
      (leads_members limit stack (p :: ms) [] _ (List.cons_ne_nil p ms) (atKey_firstKey limit stack))

theorem leads_items (limit : Nat) (stack : List Frame) : ∀ (js done : List Json) (m : Machine),
    js ≠ [] → m.Awaits limit (.list done :: stack) →
    m.Leads limit (compactItems js ++ [']'])
      (Machine.Carries limit stack (arr (outlineItems done.reverse ++ outlineItems js)))
  | [], _, _, hne, _ => absurd rfl hne
  | [j], done, m, _, hm => by
    refine (leads_value limit (.list done :: stack) j m hm).close (.inr (.inl rfl))
      fun w n hw hafter => ?_
    cases hafter
    refine ⟨_, rfl, ?_⟩
    simp [outline, outlineItems_eq_map, hw]
  | j :: k :: js, done, m, _, hm => by
    rw [compactItems_cons, List.append_assoc, List.cons_append]
    refine (leads_value limit (.list done :: stack) j m hm).mark (.inl rfl) fun w n hw hafter => ?_
    cases hafter
    have hitems := leads_items limit stack (k :: js) (w :: done) _ (List.cons_ne_nil k js)
      (awaits_nextItem limit _)
    simpa [outlineItems_eq_map, hw] using hitems

theorem leads_members (limit : Nat) (stack : List Frame) :
    ∀ (ms done : List (String × Json)) (m : Machine), ms ≠ [] → m.AtKey limit stack done →
    m.Leads limit (compactMembers ms ++ ['\x7d'])
      (Machine.Carries limit stack (obj (outlineMembers done.reverse ++ outlineMembers ms)))
  | [], _, _, hne, _ => absurd rfl hne
  | [(key, j)], done, m, _, hm => by
    rw [compactMembers, List.append_assoc, List.cons_append]
    refine hm.leads ?_
    refine (leads_value limit (.member done key :: stack) j _ (awaits_value limit _)).close
      (.inr (.inr rfl)) fun w n hw hafter => ?_
    cases hafter
    refine ⟨_, rfl, ?_⟩
    simp [outline, outlineMembers_eq_map, hw]
  | (key, j) :: p :: ms, done, m, _, hm => by
    rw [compactMembers_cons, List.append_assoc, List.cons_append, List.append_assoc,
      List.cons_append]
    refine hm.leads ?_
    refine (leads_value limit (.member done key :: stack) j _ (awaits_value limit _)).mark
      (.inl rfl) fun w n hw hafter => ?_
    cases hafter
    have hmembers := leads_members limit stack (p :: ms) ((key, w) :: done) _
      (List.cons_ne_nil p ms) (atKey_nextKey limit stack (key, w) done)
    simpa [outlineMembers_eq_map, hw] using hmembers
end

theorem outline_of_readAsWritten_compact {j : Json} (h : readAsWritten limit j.compact = .ok v) :
    v.outline = j.outline := by
  rw [readAsWritten, compact, String.toList_ofList, ← List.append_nil (compactChars j)] at h
  obtain ⟨n, later, hn, hrun⟩ :=
    leads_value limit [] j .initial (awaits_value limit []) Position.start [] v h
  obtain ⟨w, hw, hend⟩ := hn.finish v (Machine.run_nil_eq_ok_iff.1 hrun)
  cases hend
  exact hw

theorem Writes.outline_eq {j : Json} (h : Writes j.compact v) : v.outline = j.outline :=
  outline_of_readAsWritten_compact (readAsWritten_of_writes h (Nat.le_refl v.depth))

end ClientAccess.Json
