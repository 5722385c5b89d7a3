import ClientAccess.Proofs.Json.Completeness
import ClientAccess.Proofs.Json.Nesting

/-! Whatever is read as a value writes it. Between two characters the machine knows which tokens the
characters taken so far spell, those of the open containers first, and what has been taken of the
token at hand. So the texts that are read are those which write a value within the limit. -/
namespace ClientAccess.Json

def Frame.tokens : Frame → List Token
  | .list items => .mark '[' :: tokensBefore items.reverse
  | .member members key =>
    .mark '\x7b' :: tokensMembersBefore members.reverse ++ [.leaf (.str key), .mark ':']

def stackTokens : List Frame → List Token
  | [] => []
  | f :: rest => stackTokens rest ++ f.tokens

/-- The tokens that are complete, inside the open containers. -/
def Mode.tokens : Mode → List Token
  | .firstItem => [.mark '[']
  | .firstKey => [.mark '\x7b']
  | .nextKey members | .text (.key members) _ _ =>
    .mark '\x7b' :: tokensMembersBefore members.reverse
  | .colon members key => .mark '\x7b' :: tokensMembersBefore members.reverse ++ [.leaf (.str key)]
  | .done v => v.tokens
  | _ => []

/-- What has been taken of the token at hand. -/
def Mode.Within : Mode → List Char → Prop
  | .word l letters v, cs => Spelling (cs ++ l :: letters) (.leaf v) ∧ v.tokens = [.leaf v]
  | .numeral n, cs => Numeral.Reached cs n
  | .text _ chars escape, cs => ∃ body, cs = '"' :: body ∧ escape.Within body chars.reverse
  | _, cs => cs = []

/-- The characters taken so far: tokens that are complete and a beginning of the next. -/
inductive Machine.Spelled (m : Machine) : List Char → Prop
  | parts {front within : List Char}
    (complete : Spells front (stackTokens m.stack ++ m.mode.tokens))
    (beginning : m.mode.Within within) : Spelled m (front ++ within)

variable {limit : Nat} {stack : List Frame} {mode : Mode} {cs : List Char} {c : Char} {v w : Json}
  {m n : Machine}

theorem Machine.Spelled.of_spells (h : Spells cs (stackTokens stack ++ mode.tokens))
    (hmode : mode.Within []) : Machine.Spelled ⟨stack, mode⟩ cs := by
  simpa using Machine.Spelled.parts (m := ⟨stack, mode⟩) h hmode

theorem Machine.Spelled.spells (h : Machine.Spelled ⟨stack, mode⟩ cs)
    (hmode : ∀ within, mode.Within within → within = []) :
    Spells cs (stackTokens stack ++ mode.tokens) := by
  cases h with
  | @parts front within complete beginning =>
    obtain rfl := hmode within beginning
    simpa using complete

theorem Spells.concat {w : List Char} {t : Token} {ts : List Token} (h : Spells cs ts)
    (hw : Spelling w t) : Spells (cs ++ w) (ts ++ [t]) :=
  h.append (.single hw)

theorem tokens_arr_reverse_cons (v : Json) (items : List Json) :
    (arr (v :: items).reverse).tokens =
      (Frame.list items).tokens ++ v.tokens ++ [.mark ']'] := by
  rw [tokens, List.reverse_cons, tokensItems_concat]
  simp [Frame.tokens]

theorem tokens_obj_reverse_cons (key : String) (v : Json) (members : List (String × Json)) :
    (obj ((key, v) :: members).reverse).tokens =
      (Frame.member members key).tokens ++ v.tokens ++ [.mark '\x7d'] := by
  rw [tokens, List.reverse_cons, tokensMembers_concat]
  simp [Frame.tokens, tokensMember]

theorem Numeral.tokens_value {k : Numeral} (h : k.value = .ok v) : v.tokens = [.leaf v] := by
  rcases Numeral.value_cases h with ⟨n, rfl⟩ | ⟨x, rfl⟩
  · rfl
  · rfl

theorem spelled_beginValue (h : Spells cs (stackTokens stack)) (hn : BeginValue limit stack c n) :
    n.Spelled (cs ++ [c]) := by
  have hnone : Spells cs (stackTokens stack ++ []) := by rwa [List.append_nil]
  cases hn with
  | numeral begins => exact .parts hnone (Numeral.reached_begin begins)
  | null => exact .parts hnone ⟨.null, rfl⟩
  | true => exact .parts hnone ⟨.true, rfl⟩
  | false => exact .parts hnone ⟨.false, rfl⟩
  | text => exact .parts hnone ⟨[], rfl, .none .nil⟩
  | list room => exact .of_spells (h.concat (.mark '[')) rfl
  | object room => exact .of_spells (h.concat (.mark '\x7b')) rfl

theorem spelled_afterValue (h : Spells cs (stackTokens stack ++ v.tokens))
    (hn : AfterValue v stack c n) : n.Spelled (cs ++ [c]) := by
  have hmark : Spells (cs ++ [c]) (stackTokens stack ++ v.tokens ++ [.mark c]) :=
    h.concat (.mark c)
  cases hn with
  | blank space => exact .of_spells (h.concat_blank space) rfl
  | item =>
    refine .of_spells ?_ rfl
    simpa [stackTokens, Frame.tokens, Mode.tokens, tokensBefore] using hmark
  | list =>
    refine .of_spells ?_ rfl
    rw [Mode.tokens, tokens_arr_reverse_cons]
    simpa [stackTokens] using hmark
  | member =>
    refine .of_spells ?_ rfl
    simpa [stackTokens, Frame.tokens, Mode.tokens, tokensMembersBefore, tokensMember] using hmark
  | object =>
    refine .of_spells ?_ rfl
    rw [Mode.tokens, tokens_obj_reverse_cons]
    simpa [stackTokens] using hmark

theorem Mode.IsBefore.within (h : mode.IsBefore) (hcs : mode.Within cs) : cs = [] := by
  cases mode <;> first | exact hcs | exact h.elim

theorem Mode.IsBefore.nil (h : mode.IsBefore) : mode.Within [] := by
  cases mode <;> first | rfl | exact h.elim

theorem Machine.Spelled.moves (h : m.Spelled cs) (hn : Moves limit m c n) :
    n.Spelled (cs ++ [c]) := by
  -- In a mode before a token nothing has been taken of it, so what has been taken is complete.
  cases hn with
  | blank space before =>
    exact .of_spells ((h.spells fun _ => before.within).concat_blank space) before.nil
  | noMembers space => exact .of_spells ((h.spells fun _ hw => hw).concat_blank space) rfl
  | value begins =>
    exact spelled_beginValue (by simpa [Mode.tokens] using h.spells fun _ hw => hw) begins
  | @firstItem stack c n begins =>
    have hlist : Spells cs (stackTokens (.list [] :: stack)) := h.spells fun _ hw => hw
    exact spelled_beginValue hlist begins
  | nextItem begins =>
    exact spelled_beginValue (by simpa [Mode.tokens] using h.spells fun _ hw => hw) begins
  | emptyList =>
    have hclose := (h.spells fun _ hw => hw).concat (.mark ']')
    rw [List.append_assoc] at hclose
    exact .of_spells hclose rfl
  | firstKey => exact .parts (h.spells fun _ hw => hw) ⟨[], rfl, .none .nil⟩
  | nextKey => exact .parts (h.spells fun _ hw => hw) ⟨[], rfl, .none .nil⟩
  | emptyObject =>
    have hclose := (h.spells fun _ hw => hw).concat (.mark '\x7d')
    rw [List.append_assoc] at hclose
    exact .of_spells hclose rfl
  | colon =>
    have hcolon := (h.spells fun _ hw => hw).concat (.mark ':')
    exact .of_spells (by simpa [stackTokens, Frame.tokens, Mode.tokens] using hcolon) rfl
  | letter =>
    obtain ⟨complete, hword, hv⟩ := h
    rw [List.append_assoc]
    exact .parts complete ⟨by simpa using hword, hv⟩
  | lastLetter =>
    obtain ⟨complete, hword, hv⟩ := h
    have hvalue := complete.concat hword
    rw [List.append_assoc]
    exact .of_spells (by simpa [Mode.tokens, hv] using hvalue) rfl
  | numeral next =>
    obtain ⟨complete, hreached⟩ := h
    rw [List.append_assoc]
    exact .parts complete (Numeral.Reached.next hreached next)
  | number ends value after =>
    obtain ⟨complete, hreached⟩ := h
    have hnumber := hreached.spells (Numeral.isComplete_of_next ends)
    have hvalue := complete.concat (.number hnumber value)
    rw [← Numeral.tokens_value value] at hvalue
    exact spelled_afterValue (by simpa [Mode.tokens] using hvalue) after
  | @text stack purpose chars chars' escape escape' c next =>
    obtain ⟨complete, body, rfl, hbody⟩ := h
    rw [List.append_assoc]
    refine .parts ?_ ⟨body ++ [c], rfl, hbody.step next⟩
    cases purpose <;> exact complete
  | @quote stack purpose chars =>
    obtain ⟨complete, body, rfl, hbody⟩ := h
    have htext := complete.concat (.text hbody.body)
    rw [List.append_assoc]
    cases purpose with
    | value => exact .of_spells (by simpa [Mode.tokens, tokens] using htext) rfl
    | key members => exact .of_spells (by simpa [Mode.tokens] using htext) rfl
  | done after => exact spelled_afterValue (h.spells fun _ hw => hw) after

theorem writes_of_readAsWritten {text : String} (h : readAsWritten limit text = .ok v) :
    Writes text v := by
  have hstart : Machine.initial.Spelled [] := .of_spells (.nil .nil) rfl
  obtain ⟨m, hm, hfinish⟩ := Machine.exists_finish Machine.Spelled
    (fun hm hmoves => hm.moves hmoves) [] hstart h
  rw [Writes]
  -- A numeral that ends with the text is complete only now.
  rw [List.nil_append] at hm
  generalize text.toList = cs at hm ⊢
  rcases Machine.finish_cases hfinish with rfl | ⟨k, rfl, hcomplete, hv⟩
  · exact hm.spells fun _ hw => hw
  · obtain ⟨complete, hreached⟩ := hm
    have hvalue := complete.concat (.number (hreached.spells hcomplete) hv)
    rw [Numeral.tokens_value hv]
    simpa [Mode.tokens, stackTokens] using hvalue

/-- The reader accepts the texts that write a value within its limit, and reads that value. -/
theorem readAsWritten_eq_ok_iff {text : String} :
    readAsWritten limit text = .ok v ↔ Writes text v ∧ v.depth ≤ limit :=
  ⟨fun h => ⟨writes_of_readAsWritten h, depth_le_of_readAsWritten h⟩,
    fun h => readAsWritten_of_writes h.1 h.2⟩

theorem Writes.unique {text : String} (h : Writes text v) (h' : Writes text w) : v = w := by
  have hv : readAsWritten (max v.depth w.depth) text = .ok v :=
    readAsWritten_of_writes h (Nat.le_max_left _ _)
  rw [readAsWritten_of_writes h' (Nat.le_max_right _ _)] at hv
  cases hv
  rfl

theorem isBlank_of_run_done {place : Position}
    (h : Machine.run limit ⟨[], .done v⟩ place cs = .ok w) : IsBlank cs := by
  induction cs generalizing place with
  | nil => exact .nil
  | cons c cs ih =>
    obtain ⟨n, hstep, hrest⟩ := Machine.run_cons_eq_ok_iff.1 h
    cases afterValue_cases hstep with
    | blank space => exact List.forall_mem_cons.2 ⟨space, ih hrest⟩

theorem isBlank_of_writes_append {members : List (String × Json)} {front rest : String}
    (h : Writes front (.obj members)) (h' : Writes (front ++ rest) w) : IsBlank rest.toList := by
  let limit := max (obj members).depth w.depth
  have hdepth : ([] : List Frame).length + (obj members).depth ≤ limit := by
    rw [List.length_nil, Nat.zero_add]
    exact Nat.le_max_left _ _
  obtain ⟨m, htake, hholds⟩ := yields_value limit [] (.obj members) .initial front.toList
    (awaits_value limit []) h hdepth
  have hdone : m = ⟨[], .done (.obj members)⟩ := by
    rcases Machine.finish_cases hholds.finish with hm | ⟨k, -, -, hk⟩
    · exact hm
    · rcases Numeral.value_cases hk with ⟨n, hn⟩ | ⟨x, hx⟩
      · cases hn
      · cases hx
  have hread : readAsWritten limit (front ++ rest) = .ok w :=
    readAsWritten_of_writes h' (Nat.le_max_right _ _)
  obtain ⟨later, hrun⟩ := htake Position.start rest.toList
  rw [readAsWritten, String.toList_append, hrun, hdone] at hread
  exact isBlank_of_run_done hread

end ClientAccess.Json
