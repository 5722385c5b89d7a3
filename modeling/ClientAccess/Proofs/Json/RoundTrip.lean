import ClientAccess.Json.Writer
import ClientAccess.Proofs.Json.Completeness

/-! Reading what has been written, on one line or over several. A value of whole numbers is spelled
by both of its texts, token by token; so both are read back as this value, if it nests no deeper
than the reader allows. -/
namespace ClientAccess.Json

variable {limit : Nat} {c : Char} {cs ds w : List Char} {t : Token} {ts us : List Token} {j : Json}

theorem hexPair_control : ∀ n < 32,
    Text.readDigits? 16 ['0', '0', Nat.digitChar (n / 16), Nat.digitChar (n % 16)] = some n := by
  decide

theorem piece_control (h : c.toNat < 32) : Piece (['\\', 'u', '0', '0'] ++ hexPair c.toNat) c := by
  have hunit : IsUnit (['0', '0'] ++ hexPair c.toNat) c.toNat := ⟨rfl, hexPair_control c.toNat h⟩
  have hlead : ¬ IsLead c.toNat := fun hlead => by
    have hlow := hlead.1
    omega
  have htrail : ¬ IsTrail c.toNat := fun htrail => by
    have hlow := htrail.1
    omega
  have hpiece := Piece.unit hunit hlead htrail
  rwa [Char.ofNat_toNat] at hpiece

theorem piece_escapeChar (c : Char) : Piece (escapeChar c) c := by
  unfold escapeChar
  split
  · next h => exact .letter (by rw [h]; decide)
  split
  · next h => exact .letter (by rw [h]; decide)
  split
  · next h => exact .letter (by rw [h]; decide)
  split
  · next h => exact .letter (by rw [h]; decide)
  split
  · next h => exact .letter (by rw [h]; decide)
  split
  · next h => exact .letter (by rw [h]; decide)
  split
  · next h => exact .letter (by rw [h]; decide)
  split
  · next h => exact piece_control h
  · next hquote hback _ _ _ _ _ hcontrol => exact .plain hquote hback (Nat.not_lt.1 hcontrol)

theorem Body.escaped (h : Body cs ds) (s : List Char) :
    Body (cs ++ s.flatMap escapeChar) (ds ++ s) := by
  induction s generalizing cs ds with
  | nil => simpa using h
  | cons c s ih => simpa using ih (h.snoc (piece_escapeChar c))

theorem spelling_text (s : String) : Spelling (textChars s) (.leaf (.str s)) := by
  have hbody : Body (s.toList.flatMap escapeChar) s.toList := Body.nil.escaped s.toList
  have hspelling := Spelling.text hbody
  rwa [String.ofList_toList] at hspelling

theorem spelling_digits (negative : Bool) {k : Nat} (hpos : 0 < k) (hk : k < 1 <<< 64)
    (hneg : negative = true → k ≤ 1 <<< 63) :
    Spelling (Numeral.signChars negative ++ Nat.toDigits 10 k)
      (.leaf (.int (if negative then -(k : Int) else k))) := by
  obtain ⟨first, rest, hchars, hfirst, hlt, hdigits, hvalue⟩ := exists_digits k hpos
  have hv : (Numeral.start negative .whole (first :: rest)).value =
      .ok (.int (if negative then -(k : Int) else k)) := by
    rw [← hvalue] at hk hneg hpos ⊢
    exact Numeral.value_whole hk fun hn => ⟨by omega, hneg hn⟩
  have hfront : (first :: rest).head? ≠ some 0 := by
    rw [List.head?_cons, ne_eq, Option.some.injEq]
    omega
  rw [hchars]
  exact .number (.whole negative ⟨List.cons_ne_nil _ _, List.forall_mem_cons.2 ⟨hlt, hdigits⟩⟩
    hfront) hv

theorem spelling_int {k : Int} (h : (int k).isWhole = true) :
    Spelling (intChars k) (.leaf (.int k)) := by
  cases k with
  | ofNat k =>
    have hk : k < 1 <<< 64 := of_decide_eq_true h
    rcases Nat.eq_zero_or_pos k with rfl | hpos
    · exact .number (.nought false) rfl
    · exact spelling_digits false hpos hk (by simp)
  | negSucc k =>
    have hk : k < 1 <<< 63 := of_decide_eq_true h
    exact spelling_digits true (Nat.succ_pos k) (by omega) fun _ => by omega

theorem Spells.after_mark (c : Char) (h : Spells cs ts) : Spells (c :: cs) (.mark c :: ts) :=
  (Spells.mark c).append h

theorem Spells.member {key : String} (h : Spells cs j.tokens) :
    Spells (textChars key ++ ':' :: cs) (tokensMember (key, j)) :=
  (Spells.single (spelling_text key)).append (h.after_mark ':')

mutual
theorem spells_compact : ∀ j : Json, j.isWhole = true → Spells (compactChars j) j.tokens
  | .null, _ => .single .null
  | .bool true, _ => .single .true
  | .bool false, _ => .single .false
  | .int _, h => .single (spelling_int h)
  | .float _, h => by cases h
  | .str s, _ => .single (spelling_text s)
  | .arr items, h => ((spells_compactItems items h).after_mark '[').append (.mark ']')
  | .obj members, h => ((spells_compactMembers members h).after_mark '\x7b').append (.mark '\x7d')

theorem spells_compactItems : ∀ js : List Json, isWholeItems js = true →
    Spells (compactItems js) (tokensItems js)
  | [], _ => .nil .nil
  | [j], h => spells_compact j (by simpa [isWholeItems] using h)
  | j :: k :: js, h => by
    rw [isWholeItems_cons, Bool.and_eq_true] at h
    exact (spells_compact j h.1).append ((spells_compactItems (k :: js) h.2).after_mark ',')

theorem spells_compactMembers : ∀ ms : List (String × Json), isWholeMembers ms = true →
    Spells (compactMembers ms) (tokensMembers ms)
  | [], _ => .nil .nil
  | [(_, j)], h => .member (spells_compact j (by simpa [isWholeMembers] using h))
  | (_, j) :: p :: ms, h => by
    rw [isWholeMembers_cons, Bool.and_eq_true] at h
    exact (spells_compact j h.1).member.append
      ((spells_compactMembers (p :: ms) h.2).after_mark ',')
end

theorem isBlank_lineStart (level : Nat) : IsBlank (lineStart level) := by
  intro c hc
  rw [lineStart, List.mem_cons, List.mem_replicate] at hc
  rcases hc with rfl | ⟨-, rfl⟩ <;> decide

theorem Spells.lines {left right : Char} (h : Spells cs ts) (level : Nat) :
    Spells (left :: cs ++ lineStart level ++ [right]) (.mark left :: ts ++ [.mark right]) := by
  have hclose : Spells (lineStart level ++ [right]) [.mark right] :=
    (Spells.mark right).blank_left (isBlank_lineStart level)
  rw [List.append_assoc]
  exact (h.after_mark left).append hclose

theorem Spells.line {key : String} (h : Spells cs j.tokens) (level : Nat) :
    Spells (lineStart level ++ textChars key ++ [':', ' '] ++ cs) (tokensMember (key, j)) := by
  have hvalue : Spells (' ' :: cs) j.tokens := h.blank_left (List.forall_mem_singleton.2 rfl)
  have hmember : Spells (textChars key ++ ':' :: ' ' :: cs) (tokensMember (key, j)) := hvalue.member
  simpa using hmember.blank_left (isBlank_lineStart level)

mutual
theorem spells_pretty (level : Nat) : ∀ j : Json, j.isWhole = true →
    Spells (prettyChars level j) j.tokens
  | .null, _ => .single .null
  | .bool true, _ => .single .true
  | .bool false, _ => .single .false
  | .int _, h => .single (spelling_int h)
  | .float _, h => by cases h
  | .str s, _ => .single (spelling_text s)
  | .arr [], _ => (Spells.mark ']').after_mark '['
  | .arr (j :: js), h => (spells_prettyItems (level + 1) (j :: js) h).lines level
  | .obj [], _ => (Spells.mark '\x7d').after_mark '\x7b'
  | .obj (p :: ms), h => (spells_prettyMembers (level + 1) (p :: ms) h).lines level

theorem spells_prettyItems (level : Nat) : ∀ js : List Json, isWholeItems js = true →
    Spells (prettyItems level js) (tokensItems js)
  | [], _ => .nil .nil
  | [j], h => (spells_pretty level j (by simpa [isWholeItems] using h)).blank_left
      (isBlank_lineStart level)
  | j :: k :: js, h => by
    rw [isWholeItems_cons, Bool.and_eq_true] at h
    exact ((spells_pretty level j h.1).blank_left (isBlank_lineStart level)).append
      ((spells_prettyItems level (k :: js) h.2).after_mark ',')

theorem spells_prettyMembers (level : Nat) : ∀ ms : List (String × Json),
    isWholeMembers ms = true → Spells (prettyMembers level ms) (tokensMembers ms)
  | [], _ => .nil .nil
  | [(_, j)], h => (spells_pretty level j (by simpa [isWholeMembers] using h)).line level
  | (_, j) :: p :: ms, h => by
    rw [isWholeMembers_cons, Bool.and_eq_true] at h
    exact ((spells_pretty level j h.1).line level).append
      ((spells_prettyMembers level (p :: ms) h.2).after_mark ',')
end

theorem writes_compact (h : j.isWhole = true) : Writes j.compact j := by
  rw [Writes, compact, String.toList_ofList]
  exact spells_compact j h

theorem writes_pretty (h : j.isWhole = true) : Writes j.pretty j := by
  rw [Writes, pretty, String.toList_ofList]
  exact spells_pretty 0 j h

theorem readAsWritten_compact (h : j.isWhole = true) (hdepth : j.depth ≤ limit) :
    readAsWritten limit j.compact = .ok j :=
  readAsWritten_of_writes (writes_compact h) hdepth

theorem readAsWritten_pretty (h : j.isWhole = true) (hdepth : j.depth ≤ limit) :
    readAsWritten limit j.pretty = .ok j :=
  readAsWritten_of_writes (writes_pretty h) hdepth

end ClientAccess.Json
