import ClientAccess.Proofs.Location.RoundTrip

/-! Queries, piece by piece. Ampersands cut a query into pieces, and a piece is read on its own: an
empty one says nothing, every other says one pair, whatever its escapes. So the query of joined texts
is that of the one followed by that of the other. -/
namespace ClientAccess

namespace Location

variable {raw piece : List Char} {path text : String} {pairs : List (String × String)}

def spaced (raw : List Char) : String := String.ofList (raw.map fun c => if c = '+' then ' ' else c)

/-- What a component of a query says. Its escapes are decoded if the bytes behind all of it are those
of a text; otherwise all of them stay. -/
inductive Says (raw : List Char) : String → Prop
  | decoded {text : String} (h : Text.Percent.Decodes (spaced raw) text) : Says raw text
  | kept (h : ∀ text, ¬ Text.Percent.Decodes (spaced raw) text) : Says raw (spaced raw)

theorem decodeComponent_eq (raw : List Char) :
    decodeComponent raw = (Text.Percent.decode? (spaced raw)).getD (spaced raw) := rfl

theorem says_decodeComponent (raw : List Char) : Says raw (decodeComponent raw) := by
  rw [decodeComponent_eq]
  cases hdecode : Text.Percent.decode? (spaced raw) with
  | some text => exact .decoded (Text.Percent.decode?_eq_some_iff.1 hdecode)
  | none =>
    refine .kept fun text h => ?_
    rw [Text.Percent.decode?_eq_some_iff.2 h] at hdecode
    cases hdecode

theorem Says.decodeComponent_eq (h : Says raw text) : decodeComponent raw = text := by
  rw [Location.decodeComponent_eq]
  cases h with
  | decoded h => rw [Text.Percent.decode?_eq_some_iff.2 h, Option.getD_some]
  | kept h =>
    have hnone : Text.Percent.decode? (spaced raw) = none :=
      Option.eq_none_iff_forall_ne_some.2 fun text htext =>
        h text (Text.Percent.decode?_eq_some_iff.1 htext)
    rw [hnone, Option.getD_none]

/-- What a piece of a query says. The key ends at the first equals sign, and all that comes after it
is the value; without one the value is empty. -/
inductive PieceSays : List Char → List (String × String) → Prop
  | nothing : PieceSays [] []
  | key {piece : List Char} {key : String} (filled : piece ≠ []) (plain : '=' ∉ piece)
    (saysKey : Says piece key) : PieceSays piece [(key, "")]
  | pair {rawKey rawValue : List Char} {key value : String} (plain : '=' ∉ rawKey)
    (saysKey : Says rawKey key) (saysValue : Says rawValue value) :
    PieceSays (rawKey ++ '=' :: rawValue) [(key, value)]

inductive PiecesSay : List String → List (String × String) → Prop
  | nil : PiecesSay [] []
  | cons {piece : String} {pieces : List String} {pairs more : List (String × String)}
    (here : PieceSays piece.toList pairs) (after : PiecesSay pieces more) :
    PiecesSay (piece :: pieces) (pairs ++ more)

theorem decodeQuery_piece (hpiece : '&' ∉ piece) (hfilled : piece ≠ []) :
    decodeQuery piece = [decodePair piece] := by
  rw [decodeQuery, List.splitOn_eq_singleton hpiece]
  simp [hfilled]

theorem decodePair_key (h : '=' ∉ piece) : decodePair piece = (decodeComponent piece, "") := by
  have hempty : decodeComponent [] = "" := rfl
  simp only [decodePair, Text.cutFirst_eq_none_iff.2 h, Option.getD_none, hempty]

theorem pieceSays_decodePair (hfilled : piece ≠ []) : PieceSays piece [decodePair piece] := by
  cases hcut : Text.cutFirst '=' piece with
  | none =>
    have hplain := Text.cutFirst_eq_none_iff.1 hcut
    rw [decodePair_key hplain]
    exact .key hfilled hplain (says_decodeComponent _)
  | some parts =>
    obtain ⟨rawKey, rawValue⟩ := parts
    obtain ⟨rfl, hplain⟩ := Text.eq_append_of_cutFirst hcut
    rw [decodePair_append hplain]
    exact .pair hplain (says_decodeComponent _) (says_decodeComponent _)

theorem pieceSays_iff (hpiece : '&' ∉ piece) : PieceSays piece pairs ↔ decodeQuery piece = pairs := by
  constructor
  · intro h
    cases h with
    | nothing => rfl
    | key filled plain saysKey =>
      rw [decodeQuery_piece hpiece filled, decodePair_key plain, saysKey.decodeComponent_eq]
    | pair plain saysKey saysValue =>
      rw [decodeQuery_piece hpiece (by simp), decodePair_append plain, saysKey.decodeComponent_eq,
        saysValue.decodeComponent_eq]
  · rintro rfl
    by_cases hfilled : piece = []
    · rw [hfilled]
      exact .nothing
    · rw [decodeQuery_piece hpiece hfilled]
      exact pieceSays_decodePair hfilled

theorem decodeQuery_append (a b : String) :
    decodeQuery (a ++ "&" ++ b).toList = decodeQuery a.toList ++ decodeQuery b.toList := by
  have hchars : (a ++ "&" ++ b).toList = a.toList ++ '&' :: b.toList := by simp
  rw [hchars, decodeQuery, List.splitOn_append_cons_self, List.filter_append, List.map_append,
    decodeQuery, decodeQuery]

theorem decodeQuery_join (pieces : List String) :
    decodeQuery ("&".intercalate pieces).toList =
      pieces.flatMap fun piece => decodeQuery piece.toList := by
  induction pieces with
  | nil => rfl
  | cons first rest ih =>
    cases rest with
    | nil => simp
    | cons second rest =>
      have hjoin : "&".intercalate (first :: second :: rest) =
          first ++ "&" ++ "&".intercalate (second :: rest) := by
        apply String.toList_injective
        simp [String.toList_intercalate]
      simp only [hjoin, decodeQuery_append, ih, List.flatMap_cons]

theorem piecesSay_iff {pieces : List String} (h : ∀ piece ∈ pieces, '&' ∉ piece.toList) :
    PiecesSay pieces pairs ↔ (pieces.flatMap fun piece => decodeQuery piece.toList) = pairs := by
  induction pieces generalizing pairs with
  | nil =>
    constructor
    · rintro ⟨⟩
      rfl
    · rintro rfl
      exact .nil
  | cons first rest ih =>
    have hfirst : '&' ∉ first.toList := h first List.mem_cons_self
    have hrest : ∀ piece ∈ rest, '&' ∉ piece.toList := fun piece hpiece =>
      h piece (List.mem_cons_of_mem first hpiece)
    rw [List.flatMap_cons]
    constructor
    · rintro (_ | ⟨here, after⟩)
      rw [(pieceSays_iff hfirst).1 here, (ih hrest).1 after]
    · rintro rfl
      exact .cons ((pieceSays_iff hfirst).2 rfl) ((ih hrest).2 rfl)

theorem parse_query (hquery : '?' ∉ path.toList) (hfragment : '#' ∉ path.toList)
    (htext : '#' ∉ text.toList) :
    parse (path ++ "?" ++ text) = ⟨Path.normalize path, decodeQuery text.toList⟩ := by
  have hchars : (path ++ "?" ++ text).toList = path.toList ++ '?' :: text.toList := by simp
  rw [parse_of_toList hchars hquery hfragment htext, String.ofList_toList]

theorem hash_not_mem_append {a b : String} (ha : '#' ∉ a.toList) (hb : '#' ∉ b.toList) :
    '#' ∉ (a ++ "&" ++ b).toList := by
  simp [ha, hb]

theorem hash_not_mem_join {pieces : List String} (h : ∀ piece ∈ pieces, '#' ∉ piece.toList) :
    '#' ∉ ("&".intercalate pieces).toList := by
  rw [String.toList_intercalate]
  intro hmem
  obtain hmark | ⟨chars, hchars, hmem⟩ := Text.mem_of_mem_intercalate hmem
  · exact absurd hmark (by decide)
  · obtain ⟨piece, hpiece, rfl⟩ := List.mem_map.1 hchars
    exact h piece hpiece hmem

/-- Behind a path without delimiters, texts joined by an ampersand are read as queries one after the
other. The query of any pieces is what they say, and a piece that is not empty says one pair in every
place, whatever its escapes and those of its neighbours. A fragment changes nothing. -/
theorem parse_joined_queries (path : String) (hquery : '?' ∉ path.toList)
    (hfragment : '#' ∉ path.toList) :
    (∀ a b : String, '#' ∉ a.toList → '#' ∉ b.toList →
      (parse (path ++ "?" ++ a ++ "&" ++ b)).path = Path.normalize path ∧
      (parse (path ++ "?" ++ a ++ "&" ++ b)).query =
        (parse (path ++ "?" ++ a)).query ++ (parse (path ++ "?" ++ b)).query) ∧
    (∀ pieces : List String, (∀ piece ∈ pieces, '&' ∉ piece.toList ∧ '#' ∉ piece.toList) →
      ∀ pairs, (parse (path ++ "?" ++ "&".intercalate pieces)).query = pairs ↔
        PiecesSay pieces pairs) ∧
    (∀ piece : String, piece ≠ "" → '&' ∉ piece.toList → '#' ∉ piece.toList →
      ∃ pair, PieceSays piece.toList [pair] ∧
        ∀ before after : String, '#' ∉ before.toList → '#' ∉ after.toList →
          (parse (path ++ "?" ++ before ++ "&" ++ piece ++ "&" ++ after)).query =
            (parse (path ++ "?" ++ before)).query ++
              pair :: (parse (path ++ "?" ++ after)).query) ∧
    ∀ text fragment : String, parse (text ++ "#" ++ fragment) = parse text := by
  have hjoined : ∀ a b : String, '#' ∉ a.toList → '#' ∉ b.toList →
      parse (path ++ "?" ++ a ++ "&" ++ b) =
        ⟨Path.normalize path, decodeQuery a.toList ++ decodeQuery b.toList⟩ := by
    intro a b ha hb
    have htext : path ++ "?" ++ a ++ "&" ++ b = path ++ "?" ++ (a ++ "&" ++ b) := by
      simp only [String.append_assoc]
    rw [htext, parse_query hquery hfragment (hash_not_mem_append ha hb), decodeQuery_append]
  refine ⟨?_, ?_, ?_, parse_append_fragment⟩
  · intro a b ha hb
    rw [hjoined a b ha hb, parse_query hquery hfragment ha, parse_query hquery hfragment hb]
    exact ⟨rfl, rfl⟩
  · intro pieces hpieces pairs
    have hhash := hash_not_mem_join fun piece hpiece => (hpieces piece hpiece).2
    rw [parse_query hquery hfragment hhash, decodeQuery_join,
      piecesSay_iff fun piece hpiece => (hpieces piece hpiece).1]
  · intro piece hfilled hpiece hhash
    have hne : piece.toList ≠ [] := by simpa using hfilled
    refine ⟨decodePair piece.toList, pieceSays_decodePair hne, fun before after hbefore hafter => ?_⟩
    have htext : path ++ "?" ++ before ++ "&" ++ piece ++ "&" ++ after =
        path ++ "?" ++ (before ++ "&" ++ piece) ++ "&" ++ after := by
      simp only [String.append_assoc]
    rw [htext, hjoined _ after (hash_not_mem_append hbefore hhash) hafter, decodeQuery_append,
      decodeQuery_piece hpiece hne, parse_query hquery hfragment hbefore,
      parse_query hquery hfragment hafter, List.append_assoc, List.singleton_append]

theorem parse_joined_awkward :
    '?' ∉ "/a//b/".toList ∧ '#' ∉ "/a//b/".toList ∧
    (parse ("/a//b/" ++ "?" ++ "k=1&&k=1" ++ "&" ++ "flag&x=a=b?c+%zz")).path = "/a/b" ∧
    (parse ("/a//b/" ++ "?" ++ "k=1&&k=1" ++ "&" ++ "flag&x=a=b?c+%zz")).query =
      [("k", "1"), ("k", "1"), ("flag", ""), ("x", "a=b?c %zz")] ∧
    PiecesSay ["x=a=b?c+%zz", "", "%FF%41=%C3%A9"] [("x", "a=b?c %zz"), ("%FF%41", "é")] := by
  have hquery : '?' ∉ "/a//b/".toList := by decide
  have hfragment : '#' ∉ "/a//b/".toList := by decide
  obtain ⟨hjoined, hpieces, -, -⟩ := parse_joined_queries "/a//b/" hquery hfragment
  obtain ⟨hpath, hpairs⟩ := hjoined "k=1&&k=1" "flag&x=a=b?c+%zz" (by decide) (by decide)
  exact ⟨hquery, hfragment, hpath, hpairs, (hpieces _ (by decide) _).1 rfl⟩

end Location

end ClientAccess
