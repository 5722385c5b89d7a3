import ClientAccess.Proofs.Json.Numeral
import ClientAccess.Proofs.Json.Quotation
import ClientAccess.Proofs.Json.Shape

/-! Whatever writes a value is read as this value, if it nests no deeper than the reader allows. A
numeral does not say where it ends, so a machine that has taken a value behaves as after it only on
characters that no numeral goes on with; these are all that can follow. -/
namespace ClientAccess.Json

open Machine (Takes)

variable {limit : Nat} {stack : List Frame} {cs ds w : List Char} {m n : Machine} {v : Json}

def endsValue (c : Char) : Bool :=
  (Numeral.digit? c).isNone && c != '.' && !Numeral.isMark c

theorem isSpace_cases {c : Char} (h : isSpace c = true) :
    c = ' ' ∨ c = '\t' ∨ c = '\n' ∨ c = '\r' := by
  simpa [isSpace, or_assoc] using h

theorem endsValue_of_isSpace {c : Char} (h : isSpace c = true) : endsValue c = true := by
  rcases isSpace_cases h with rfl | rfl | rfl | rfl <;> decide

/-- The machine has read a value: it goes on, and may end, as after that value. -/
structure Machine.Holds (limit : Nat) (m : Machine) (stack : List Frame) (v : Json) : Prop where
  finish : m.finish = endAfter stack v
  step : ∀ c, endsValue c = true → m.step limit c = afterValue stack v c

theorem holds_done (limit : Nat) (stack : List Frame) (v : Json) :
    Machine.Holds limit ⟨stack, .done v⟩ stack v := ⟨rfl, fun _ _ => rfl⟩

theorem holds_numeral {n : Numeral} (hn : n.isComplete = true) (hv : n.value = .ok v) :
    Machine.Holds limit ⟨stack, .numeral n⟩ stack v where
  finish := by simp [Machine.finish, hn, hv]
  step := by
    intro c hc
    simp only [endsValue, Bool.and_eq_true, Option.isNone_iff_eq_none, bne_iff_ne,
      Bool.not_eq_true'] at hc
    obtain ⟨⟨hdigit, hpoint⟩, hmark⟩ := hc
    have hnext : n.next c = .ok none := by
      cases hphase : n.phase with
      | zero | whole | fraction | exponent => simp [Numeral.next, hphase, hdigit, hpoint, hmark]
      | _ => simp [Numeral.isComplete, hphase] at hn
    simp [Machine.step, hnext, hv]

def Machine.Skips (limit : Nat) (m : Machine) : Prop :=
  ∀ c, isSpace c = true → m.step limit c = .ok m

theorem Machine.Skips.takes (h : m.Skips limit) (hcs : IsBlank cs) : Takes limit m cs m := by
  induction cs with
  | nil => exact Takes.nil
  | cons c cs ih =>
    obtain ⟨hc, hrest⟩ := List.forall_mem_cons.1 hcs
    exact Takes.cons (h c hc) (ih hrest)

theorem skips_done (limit : Nat) (stack : List Frame) (v : Json) :
    Machine.Skips limit ⟨stack, .done v⟩ := fun c hc => by simp [Machine.step, afterValue, hc]

/-- The characters lead to a value. -/
def Machine.Yields (limit : Nat) (m : Machine) (cs : List Char) (stack : List Frame) (v : Json) :
    Prop :=
  ∃ k, Takes limit m cs k ∧ k.Holds limit stack v

namespace Machine.Yields

theorem after (h : Takes limit m cs n) (h' : n.Yields limit ds stack v) :
    m.Yields limit (cs ++ ds) stack v := by
  obtain ⟨k, htake, hholds⟩ := h'
  exact ⟨k, h.append htake, hholds⟩

theorem blank (h : m.Yields limit cs stack v) (hds : IsBlank ds) :
    m.Yields limit (cs ++ ds) stack v := by
  obtain ⟨k, htake, hholds⟩ := h
  cases ds with
  | nil => exact ⟨k, by simpa using htake, hholds⟩
  | cons d ds =>
    obtain ⟨hd, hrest⟩ := List.forall_mem_cons.1 hds
    have hstep : k.step limit d = .ok ⟨stack, .done v⟩ := by
      rw [hholds.step d (endsValue_of_isSpace hd)]
      simp [afterValue, hd]
    have hblank : Takes limit k (d :: ds) ⟨stack, .done v⟩ :=
      Takes.cons hstep ((skips_done limit stack v).takes hrest)
    exact ⟨⟨stack, .done v⟩, htake.append hblank, holds_done limit stack v⟩

theorem mark {c : Char} {ts : List Token} (h : m.Yields limit cs stack v)
    (hds : Spells ds (.mark c :: ts)) (hc : endsValue c = true)
    (hn : afterValue stack v c = .ok n) :
    ∃ front rest, ds = front ++ rest ∧ Takes limit m (cs ++ front) n ∧ Spells rest ts := by
  cases hds with
  | @cons blanks w rest _ _ hblank hfirst hrest =>
    obtain rfl := hfirst.mark_eq
    obtain ⟨k, htake, hholds⟩ := h.blank hblank
    have hstep : k.step limit c = .ok n := by rw [hholds.step c hc, hn]
    refine ⟨blanks ++ [c], rest, rfl, ?_, hrest⟩
    rw [← List.append_assoc]
    exact htake.append (Takes.single hstep)

theorem close {c : Char} {u : Json} {outer : List Frame} (h : m.Yields limit cs stack v)
    (hds : Spells ds [.mark c]) (hc : endsValue c = true)
    (hn : afterValue stack v c = .ok ⟨outer, .done u⟩) : m.Yields limit (cs ++ ds) outer u := by
  obtain ⟨front, rest, rfl, htake, hrest⟩ := h.mark hds hc hn
  cases hrest with
  | nil hblank =>
    rw [← List.append_assoc]
    exact blank ⟨_, htake, holds_done limit outer u⟩ hblank

end Machine.Yields

structure Machine.Awaits (limit : Nat) (m : Machine) (stack : List Frame) : Prop where
  skips : m.Skips limit
  begins : ∀ c, isSpace c = false → c ≠ ']' → m.step limit c = beginValue limit stack c

theorem awaits_value (limit : Nat) (stack : List Frame) :
    Machine.Awaits limit ⟨stack, .value⟩ stack where
  skips c hc := by simp [Machine.step, hc]
  begins c hc _ := by simp [Machine.step, hc]

theorem awaits_firstItem (limit : Nat) (stack : List Frame) :
    Machine.Awaits limit ⟨stack, .firstItem⟩ (.list [] :: stack) where
  skips c hc := by simp [Machine.step, hc]
  begins c hc hclose := by simp [Machine.step, hc, hclose]

theorem awaits_nextItem (limit : Nat) (stack : List Frame) :
    Machine.Awaits limit ⟨stack, .nextItem⟩ stack where
  skips c hc := by simp [Machine.step, hc]
  begins c hc hclose := by simp [Machine.step, hc, hclose]

/-- A value begins with the first of the characters, and they lead to `m`. -/
def Begins (limit : Nat) (stack : List Frame) (cs : List Char) (m : Machine) : Prop :=
  ∃ c rest k, cs = c :: rest ∧ isSpace c = false ∧ c ≠ ']' ∧
    beginValue limit stack c = .ok k ∧ Takes limit k rest m

theorem Machine.Awaits.takes (h : m.Awaits limit stack) (hcs : Begins limit stack cs n) :
    Takes limit m cs n := by
  obtain ⟨c, rest, k, rfl, hspace, hclose, hbegin, htake⟩ := hcs
  refine Takes.cons ?_ htake
  rw [h.begins c hspace hclose, hbegin]

theorem begins_word {c l : Char} {letters : List Char} (hspace : isSpace c = false)
    (hclose : c ≠ ']') (hbegin : beginValue limit stack c = .ok ⟨stack, .word l letters v⟩) :
    Begins limit stack (c :: l :: letters) ⟨stack, .done v⟩ := by
  refine ⟨c, l :: letters, _, rfl, hspace, hclose, hbegin, ?_⟩
  clear hbegin
  induction letters generalizing l with
  | nil => exact Takes.single (by simp [Machine.step])
  | cons l' letters ih => exact Takes.cons (by simp [Machine.step]) ih

theorem begins_text {body s : List Char} (h : Body body s) :
    Begins limit stack ('"' :: body ++ ['"']) ⟨stack, .done (.str (String.ofList s))⟩ :=
  ⟨'"', body ++ ['"'], _, rfl, rfl, by decide, rfl, takes_text .value h⟩

theorem Numeral.begin?_ne {c : Char} {k : Numeral} (h : Numeral.begin? c = some k) :
    isSpace c = false ∧ c ≠ ']' := by
  unfold Numeral.begin? at h
  split at h
  · next hc =>
    rw [hc]
    decide
  split at h
  · next hc =>
    rw [hc]
    decide
  · next hnought =>
    obtain ⟨d, hd, -⟩ := Option.map_eq_some_iff.1 h
    obtain ⟨rfl, hlt⟩ := Numeral.digitChar_eq hd
    have hpos : 0 < d := Nat.pos_of_ne_zero fun hzero => hnought (by rw [hzero]; rfl)
    obtain ⟨hspace, hclose, -, -⟩ := digitChar_ne d hlt hpos
    exact ⟨hspace, hclose⟩

theorem begins_numeral {k : Numeral} (h : k.Spells cs) :
    Begins limit stack cs ⟨stack, .numeral k⟩ := by
  have hopens : Numeral.Opens limit stack cs k := h.opens
  obtain ⟨c, rest, first, rfl, hbegin, htake⟩ := hopens
  obtain ⟨hspace, hclose⟩ := Numeral.begin?_ne hbegin
  exact ⟨c, rest, _, rfl, hspace, hclose, by rw [beginValue, hbegin], htake⟩

theorem begins_open {c : Char} {mode : Mode} (hc : c = '[' ∧ mode = .firstItem ∨
    c = '\x7b' ∧ mode = .firstKey) (hdepth : stack.length < limit) :
    Begins limit stack [c] ⟨stack, mode⟩ := by
  have hopen : openContainer limit stack mode = .ok ⟨stack, mode⟩ := by
    rw [openContainer, if_neg (by omega)]
  rcases hc with ⟨rfl, rfl⟩ | ⟨rfl, rfl⟩
  · exact ⟨_, _, _, rfl, rfl, by decide, hopen, Takes.nil⟩
  · exact ⟨_, _, _, rfl, rfl, by decide, hopen, Takes.nil⟩

theorem begins_leaf (h : Spelling w (.leaf v)) :
    ∃ k, Begins limit stack w k ∧ k.Holds limit stack v := by
  cases h with
  | null => exact ⟨_, begins_word rfl (by decide) rfl, holds_done limit stack _⟩
  | true => exact ⟨_, begins_word rfl (by decide) rfl, holds_done limit stack _⟩
  | false => exact ⟨_, begins_word rfl (by decide) rfl, holds_done limit stack _⟩
  | text body => exact ⟨_, begins_text body, holds_done limit stack _⟩
  | number digits value => exact ⟨_, begins_numeral digits, holds_numeral digits.isComplete value⟩

namespace Machine.Awaits

theorem leaf (h : m.Awaits limit stack) (hcs : Spells cs [.leaf v]) :
    m.Yields limit cs stack v := by
  cases hcs with
  | @cons blanks w rest _ _ hblank hfirst hrest =>
    cases hrest with
    | nil hbehind =>
      obtain ⟨k, hbegin, hholds⟩ := begins_leaf hfirst
      exact .blank ⟨k, (h.skips.takes hblank).append (h.takes hbegin), hholds⟩ hbehind

theorem opens {c : Char} {mode : Mode} {ts : List Token} (h : m.Awaits limit stack)
    (hc : c = '[' ∧ mode = .firstItem ∨ c = '\x7b' ∧ mode = .firstKey)
    (hdepth : stack.length < limit) (hcs : Spells cs (.mark c :: ts)) :
    ∃ front rest, cs = front ++ rest ∧ Takes limit m front ⟨stack, mode⟩ ∧ Spells rest ts := by
  cases hcs with
  | @cons blanks w rest _ _ hblank hfirst hrest =>
    obtain rfl := hfirst.mark_eq
    exact ⟨blanks ++ [c], rest, rfl,
      (h.skips.takes hblank).append (h.takes (begins_open hc hdepth)), hrest⟩

end Machine.Awaits

structure Machine.AtKey (limit : Nat) (m : Machine) (stack : List Frame)
    (done : List (String × Json)) : Prop where
  skips : m.Skips limit
  opens : m.step limit '"' = .ok ⟨stack, .text (.key done) [] .none⟩

theorem atKey_firstKey (limit : Nat) (stack : List Frame) :
    Machine.AtKey limit ⟨stack, .firstKey⟩ stack [] where
  skips c hc := by simp [Machine.step, beginKey, hc]
  opens := rfl

theorem atKey_nextKey (limit : Nat) (stack : List Frame) (p : String × Json)
    (done : List (String × Json)) :
    Machine.AtKey limit ⟨stack, .nextKey (p :: done)⟩ stack (p :: done) where
  skips c hc := by simp [Machine.step, beginKey, hc]
  opens := rfl

theorem yields_empty {c : Char} (hskips : m.Skips limit)
    (hm : m.step limit c = .ok ⟨stack, .done v⟩) (hcs : Spells cs [.mark c]) :
    m.Yields limit cs stack v := by
  cases hcs with
  | @cons blanks w rest _ _ hblank hfirst hrest =>
    obtain rfl := hfirst.mark_eq
    cases hrest with
    | nil hbehind =>
      exact .blank ⟨_, (hskips.takes hblank).append (Takes.single hm), holds_done limit stack v⟩
        hbehind

theorem Machine.AtKey.takes {done : List (String × Json)} {key : String} {ts : List Token}
    (h : m.AtKey limit stack done) (hcs : Spells cs (.leaf (.str key) :: .mark ':' :: ts)) :
    ∃ front rest, cs = front ++ rest ∧
      Takes limit m front ⟨.member done key :: stack, .value⟩ ∧ Spells rest ts := by
  cases hcs with
  | @cons blanks w rest _ _ hblank hkey hrest =>
    cases hrest with
    | @cons between colon rest _ _ hbetween hcolon hrest =>
      obtain rfl := hcolon.mark_eq
      obtain ⟨body, rfl, hbody⟩ := hkey.text_eq
      have htext : Takes limit m ('"' :: body ++ ['"']) ⟨stack, .colon done key⟩ := by
        have hclosing : Takes limit ⟨stack, .text (.key done) [] .none⟩ (body ++ ['"'])
            (closing stack (String.ofList key.toList) (.key done)) := takes_text (.key done) hbody
        rw [String.ofList_toList] at hclosing
        exact Takes.cons h.opens hclosing
      have hskips : Machine.Skips limit ⟨stack, .colon done key⟩ :=
        fun c hc => by simp [Machine.step, hc]
      have hstep : Machine.step limit ⟨stack, .colon done key⟩ ':' =
          .ok ⟨.member done key :: stack, .value⟩ := rfl
      have htake := (h.skips.takes hblank).append
        (htext.append ((hskips.takes hbetween).append (Takes.single hstep)))
      exact ⟨_, rest, by simp, htake, hrest⟩

mutual
/-- A value is read wherever as many containers may still be opened as it has. -/
theorem yields_value (limit : Nat) (stack : List Frame) : ∀ (j : Json) (m : Machine)
    (cs : List Char), m.Awaits limit stack → Spells cs j.tokens → stack.length + j.depth ≤ limit →
    m.Yields limit cs stack j
  | .null, _, _, hm, hcs, _ => hm.leaf hcs
  | .bool _, _, _, hm, hcs, _ => hm.leaf hcs
  | .int _, _, _, hm, hcs, _ => hm.leaf hcs
  | .float _, _, _, hm, hcs, _ => hm.leaf hcs
  | .str _, _, _, hm, hcs, _ => hm.leaf hcs
  | .arr items, m, cs, hm, hcs, hdepth => by
    rw [depth] at hdepth
    obtain ⟨front, rest, rfl, htake, hrest⟩ := hm.opens (.inl ⟨rfl, rfl⟩) (by omega) hcs
    refine .after htake ?_
    cases items with
    | nil => exact yields_empty (awaits_firstItem limit stack).skips rfl hrest
    | cons j js =>
      exact yields_items limit stack (j :: js) [] _ rest (List.cons_ne_nil j js)
        (awaits_firstItem limit stack) hrest (by omega)
  | .obj members, m, cs, hm, hcs, hdepth => by
    rw [depth] at hdepth
    obtain ⟨front, rest, rfl, htake, hrest⟩ := hm.opens (.inr ⟨rfl, rfl⟩) (by omega) hcs
    refine .after htake ?_
    cases members with
    | nil => exact yields_empty (atKey_firstKey limit stack).skips rfl hrest
    | cons p ms =>
      exact yields_members limit stack (p :: ms) [] _ rest (List.cons_ne_nil p ms)
        (atKey_firstKey limit stack) hrest (by omega)

theorem yields_items (limit : Nat) (stack : List Frame) : ∀ (js done : List Json) (m : Machine)
    (cs : List Char), js ≠ [] → m.Awaits limit (.list done :: stack) →
    Spells cs (tokensItems js ++ [.mark ']']) → stack.length + 1 + depthItems js ≤ limit →
    m.Yields limit cs stack (.arr (done.reverse ++ js))
  | [], _, _, _, hne, _, _, _ => absurd rfl hne
  | [j], done, m, cs, _, hm, hcs, hdepth => by
    rw [depthItems_cons] at hdepth
    obtain ⟨front, back, rfl, hfront, hback⟩ := hcs.split
    have hvalue := yields_value limit (.list done :: stack) j m front hm hfront
      (by rw [List.length_cons]; omega)
    have hclose := hvalue.close hback (by decide) rfl
    simpa using hclose
  | j :: k :: js, done, m, cs, _, hm, hcs, hdepth => by
    rw [depthItems_cons] at hdepth
    rw [tokensItems_cons, List.append_assoc] at hcs
    obtain ⟨front, back, rfl, hfront, hback⟩ := hcs.split
    have hvalue := yields_value limit (.list done :: stack) j m front hm hfront
      (by rw [List.length_cons]; omega)
    obtain ⟨comma, rest, rfl, htake, hrest⟩ := hvalue.mark hback (by decide) rfl
    have hitems := yields_items limit stack (k :: js) (j :: done) _ rest (List.cons_ne_nil k js)
      (awaits_nextItem limit _) hrest (by omega)
    simpa using Machine.Yields.after htake hitems

theorem yields_members (limit : Nat) (stack : List Frame) :
    ∀ (ms done : List (String × Json)) (m : Machine) (cs : List Char), ms ≠ [] →
    m.AtKey limit stack done → Spells cs (tokensMembers ms ++ [.mark '\x7d']) →
    stack.length + 1 + depthMembers ms ≤ limit → m.Yields limit cs stack (.obj (done.reverse ++ ms))
  | [], _, _, _, hne, _, _, _ => absurd rfl hne
  | [(key, j)], done, m, cs, _, hm, hcs, hdepth => by
    rw [depthMembers_cons] at hdepth
    obtain ⟨opening, value, rfl, hkey, hvalue⟩ := hm.takes hcs
    obtain ⟨front, back, rfl, hfront, hback⟩ := Spells.split hvalue
    have hmember := yields_value limit (.member done key :: stack) j _ front
      (awaits_value limit _) hfront (by rw [List.length_cons]; omega)
    have hclose := (Machine.Yields.after hkey hmember).close hback (by decide) rfl
    simpa using hclose
  | (key, j) :: p :: ms, done, m, cs, _, hm, hcs, hdepth => by
    rw [depthMembers_cons] at hdepth
    rw [tokensMembers_cons, tokensMember, List.append_assoc] at hcs
    obtain ⟨opening, value, rfl, hkey, hvalue⟩ := hm.takes hcs
    obtain ⟨front, back, rfl, hfront, hback⟩ := Spells.split hvalue
    have hmember := yields_value limit (.member done key :: stack) j _ front
      (awaits_value limit _) hfront (by rw [List.length_cons]; omega)
    obtain ⟨comma, rest, rfl, htake, hrest⟩ :=
      (Machine.Yields.after hkey hmember).mark hback (by decide) rfl
    have hmembers := yields_members limit stack (p :: ms) ((key, j) :: done) _ rest
      (List.cons_ne_nil p ms) (atKey_nextKey limit stack (key, j) done) hrest (by omega)
    simpa using Machine.Yields.after htake hmembers
end

theorem readAsWritten_of_writes {text : String} (h : Writes text v) (hdepth : v.depth ≤ limit) :
    readAsWritten limit text = .ok v := by
  obtain ⟨m, htake, hholds⟩ := yields_value limit [] v .initial text.toList (awaits_value limit [])
    h (by simpa using hdepth)
  exact readAsWritten_of_takes htake hholds.finish

end ClientAccess.Json
