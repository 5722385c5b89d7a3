import ClientAccess.Proofs.Location.Canonical
import ClientAccess.Proofs.Text.Percent

/-! Locations and their text. Keys and values may hold anything, since they are escaped; the path is
written as it is. A location is found again in its text exactly when its path is canonical and holds
no delimiter, and such is every location that has been read. -/
namespace ClientAccess

namespace Path

theorem mem_of_mem_normalize {path : String} {c : Char} (h : c ∈ (normalize path).toList) :
    c = '/' ∨ c ∈ path.toList := by
  rw [normalize, ofSegments, String.toList_ofList, List.mem_cons] at h
  rcases h with h | h
  · exact .inl h
  · rcases Text.mem_of_mem_intercalate h with h | ⟨segment, hsegment, hc⟩
    · exact .inl h
    · exact .inr (Text.mem_of_mem_splitOn (List.mem_filter.1 hsegment).1 hc)

end Path

namespace Location

def addQueries (l : Location) (pairs : List (String × String)) : Location :=
  pairs.foldl (fun l pair => l.addQuery pair.1 pair.2) l

theorem addQueries_eq (l : Location) (pairs : List (String × String)) :
    l.addQueries pairs = { l with query := l.query ++ pairs } := by
  induction pairs generalizing l with
  | nil => simp [addQueries]
  | cons pair pairs ih =>
    have hstep : l.addQueries (pair :: pairs) = (l.addQuery pair.1 pair.2).addQueries pairs := rfl
    simp [hstep, ih, addQuery]

theorem decodeComponent_encode (s : String) :
    decodeComponent (Text.Percent.encode s).toList = s := by
  have hplus : '+' ∉ (Text.Percent.encode s).toList :=
    Text.Percent.not_mem_encode (by decide) (by decide) s
  have hspaced : (Text.Percent.encode s).toList.map (fun c => if c = '+' then ' ' else c) =
      (Text.Percent.encode s).toList.map id := by
    refine List.map_congr_left fun c hc => if_neg ?_
    rintro rfl
    exact hplus hc
  rw [List.map_id] at hspaced
  simp only [decodeComponent, hspaced, String.ofList_toList, Text.Percent.decode?_encode,
    Option.getD_some]

theorem toList_encodePair (pair : String × String) :
    (encodePair pair).toList =
      (Text.Percent.encode pair.1).toList ++ '=' :: (Text.Percent.encode pair.2).toList := by
  simp [encodePair]

theorem decodePair_append {key : List Char} (h : '=' ∉ key) (value : List Char) :
    decodePair (key ++ '=' :: value) = (decodeComponent key, decodeComponent value) := by
  simp only [decodePair, Text.cutFirst_append value h, Option.getD_some]

theorem decodePair_encodePair (pair : String × String) :
    decodePair (encodePair pair).toList = pair := by
  have hequals : '=' ∉ (Text.Percent.encode pair.1).toList :=
    Text.Percent.not_mem_encode (by decide) (by decide) pair.1
  rw [toList_encodePair, decodePair_append hequals, decodeComponent_encode, decodeComponent_encode]

theorem not_mem_encodePair {sep : Char} (h : Text.Percent.isUnreserved sep = false)
    (hpercent : sep ≠ '%') (hequals : sep ≠ '=') (pair : String × String) :
    sep ∉ (encodePair pair).toList := by
  rw [toList_encodePair, List.mem_append, List.mem_cons]
  rintro (hkey | he | hvalue)
  · exact Text.Percent.not_mem_encode h hpercent pair.1 hkey
  · exact hequals he
  · exact Text.Percent.not_mem_encode h hpercent pair.2 hvalue

def queryChars (pairs : List (String × String)) : List Char :=
  ['&'].intercalate (pairs.map fun pair => (encodePair pair).toList)

theorem decodeQuery_queryChars {pairs : List (String × String)} (h : pairs ≠ []) :
    decodeQuery (queryChars pairs) = pairs := by
  have hclean : ∀ piece ∈ pairs.map (fun pair => (encodePair pair).toList), '&' ∉ piece := by
    intro piece hpiece
    obtain ⟨pair, -, rfl⟩ := List.mem_map.1 hpiece
    exact not_mem_encodePair (by decide) (by decide) (by decide) pair
  have hcut : (queryChars pairs).splitOn '&' = pairs.map fun pair => (encodePair pair).toList :=
    List.splitOn_intercalate '&' hclean (by simpa using h)
  -- Every piece has an equals sign, so none of them is passed over as empty.
  have hfilled : [] ∉ pairs.map fun pair => (encodePair pair).toList := by
    simp [toList_encodePair]
  rw [decodeQuery, hcut, Text.filter_filled hfilled, List.map_map]
  simp only [Function.comp_def, decodePair_encodePair, List.map_id_fun', id_eq]

def queryText (l : Location) : String :=
  if l.query.isEmpty then "" else "?" ++ "&".intercalate (l.query.map encodePair)

theorem fullPath_eq (l : Location) : l.fullPath = l.path ++ l.queryText := by
  unfold fullPath queryText
  split
  · rw [String.append_empty]
  · rw [String.append_assoc]

theorem toList_queryText {l : Location} (h : l.query ≠ []) :
    l.queryText.toList = '?' :: queryChars l.query := by
  have hempty : l.query.isEmpty = false := by simpa using h
  have hpieces : l.query.map (fun pair => (encodePair pair).toList) =
      (l.query.map encodePair).map String.toList := by
    rw [List.map_map]
    rfl
  simp [queryText, hempty, queryChars, hpieces, String.toList_intercalate]

/-- The path is canonical and has none of the characters that end a path in a text. -/
structure IsCanonical (l : Location) : Prop where
  canonical : Path.normalize l.path = l.path
  noQuery : '?' ∉ l.path.toList
  noFragment : '#' ∉ l.path.toList

variable {l k : Location} {text : String}

theorem hash_not_mem_queryChars (pairs : List (String × String)) : '#' ∉ queryChars pairs := by
  intro h
  rcases Text.mem_of_mem_intercalate h with h | ⟨piece, hpiece, hc⟩
  · exact absurd h (by decide)
  · obtain ⟨pair, -, rfl⟩ := List.mem_map.1 hpiece
    exact not_mem_encodePair (by decide) (by decide) (by decide) pair hc

theorem parse_of_toList {path query : List Char} (h : text.toList = path ++ '?' :: query)
    (hquery : '?' ∉ path) (hpath : '#' ∉ path) (hfragment : '#' ∉ query) :
    parse text = ⟨Path.normalize (String.ofList path), decodeQuery query⟩ := by
  have hhash : '#' ∉ path ++ '?' :: query := by simp [hpath, hfragment]
  simp only [parse, h, Text.upTo_eq_self hhash, Text.cutFirst_append query hquery, Option.getD_some]

theorem parse_append_queryText (hquery : '?' ∉ text.toList) (hfragment : '#' ∉ text.toList)
    (l : Location) : parse (text ++ l.queryText) = ⟨Path.normalize text, l.query⟩ := by
  obtain ⟨path, query⟩ := l
  cases query with
  | nil =>
    have hnone : queryText ⟨path, []⟩ = "" := rfl
    simp [hnone, parse, Text.upTo_eq_self hfragment, Text.cutFirst_eq_none_iff.2 hquery,
      decodeQuery]
  | cons pair pairs =>
    have hne : (⟨path, pair :: pairs⟩ : Location).query ≠ [] := List.cons_ne_nil pair pairs
    have hchars : (text ++ queryText ⟨path, pair :: pairs⟩).toList =
        text.toList ++ '?' :: queryChars (pair :: pairs) := by
      rw [String.toList_append, toList_queryText hne]
    rw [parse_of_toList hchars hquery hfragment (hash_not_mem_queryChars _), String.ofList_toList,
      decodeQuery_queryChars (List.cons_ne_nil pair pairs)]

theorem parse_fullPath (h : l.IsCanonical) : parse l.fullPath = l := by
  rw [fullPath_eq, parse_append_queryText h.noQuery h.noFragment, h.canonical]

theorem parse_append_fragment (text fragment : String) :
    parse (text ++ "#" ++ fragment) = parse text := by
  have hcut : Text.upTo '#' (text ++ "#" ++ fragment).toList = Text.upTo '#' text.toList := by
    rw [String.toList_append, String.toList_append, List.append_assoc]
    exact Text.upTo_append '#' text.toList fragment.toList
  rw [parse, hcut, parse]

theorem exists_path_parse (text : String) :
    ∃ cs, (parse text).path = Path.normalize (String.ofList cs) ∧ '?' ∉ cs ∧ '#' ∉ cs := by
  have hhash : '#' ∉ Text.upTo '#' text.toList := Text.not_mem_upTo '#' text.toList
  cases hcut : Text.cutFirst '?' (Text.upTo '#' text.toList) with
  | none =>
    refine ⟨Text.upTo '#' text.toList, ?_, Text.cutFirst_eq_none_iff.1 hcut, hhash⟩
    simp [parse, hcut]
  | some parts =>
    obtain ⟨before, after⟩ := parts
    obtain ⟨hsplit, hquery⟩ := Text.eq_append_of_cutFirst hcut
    refine ⟨before, by simp [parse, hcut], hquery, ?_⟩
    intro h
    rw [hsplit] at hhash
    exact hhash (List.mem_append_left _ h)

theorem IsCanonical.of_path (h : l.IsCanonical) (hpath : k.path = l.path) : k.IsCanonical := by
  refine ⟨?_, ?_, ?_⟩
  · rw [hpath, h.canonical]
  · rw [hpath]
    exact h.noQuery
  · rw [hpath]
    exact h.noFragment

theorem isCanonical_ofPath (hquery : '?' ∉ text.toList) (hfragment : '#' ∉ text.toList) :
    (ofPath text).IsCanonical := by
  refine ⟨Path.normalize_normalize text, ?_, ?_⟩
  · intro h
    exact (Path.mem_of_mem_normalize h).elim (by decide) hquery
  · intro h
    exact (Path.mem_of_mem_normalize h).elim (by decide) hfragment

theorem isCanonical_parse (text : String) : (parse text).IsCanonical := by
  obtain ⟨cs, hpath, hquery, hfragment⟩ := exists_path_parse text
  have hclean : (ofPath (String.ofList cs)).IsCanonical :=
    isCanonical_ofPath (by simpa using hquery) (by simpa using hfragment)
  exact hclean.of_path hpath

theorem parse_of_path (hquery : '?' ∉ text.toList) (hfragment : '#' ∉ text.toList) :
    parse text = ofPath text := by
  simp [parse, Text.upTo_eq_self hfragment, Text.cutFirst_eq_none_iff.2 hquery, decodeQuery, ofPath]

theorem parse_fullPath_eq_iff (l : Location) : parse l.fullPath = l ↔ l.IsCanonical := by
  constructor
  · intro h
    rw [← h]
    exact isCanonical_parse l.fullPath
  · exact parse_fullPath

/-- A location made of any path and any pairs is found again in its text exactly when its path has
no question mark and no number sign. What has been read from a text is always found again. -/
theorem parse_fullPath_addQueries (path : String) (pairs : List (String × String)) :
    (parse ((ofPath path).addQueries pairs).fullPath = (ofPath path).addQueries pairs ↔
      '?' ∉ ((ofPath path).addQueries pairs).path.toList ∧
        '#' ∉ ((ofPath path).addQueries pairs).path.toList) ∧
    ∀ text, parse (parse text).fullPath = parse text := by
  refine ⟨?_, fun text => parse_fullPath (isCanonical_parse text)⟩
  rw [parse_fullPath_eq_iff]
  have hpath : ((ofPath path).addQueries pairs).path = Path.normalize path := by
    rw [addQueries_eq]
    rfl
  constructor
  · intro h
    exact ⟨h.noQuery, h.noFragment⟩
  · intro ⟨hquery, hfragment⟩
    refine ⟨?_, hquery, hfragment⟩
    rw [hpath, Path.normalize_normalize]

example : parse (fullPath ⟨"/a?b", []⟩) = ⟨"/a", [("b", "")]⟩ := rfl

end Location

end ClientAccess
