import ClientAccess.Proofs.Location.Canonical

/-! Canonical paths, told from their characters. A tidy path begins with a slash, has no two slashes
together and does not end in one unless it is the root. These are the canonical paths, so a path has
one tidy spelling, and its segments decide which: what compares canonical paths, as a table does,
sees the segments and nothing else. -/
namespace ClientAccess

namespace Path

/-- What a path looks like whose segments stand between single slashes. -/
structure IsTidy (path : String) : Prop where
  rooted : ['/'] <+: path.toList
  /-- Between two slashes there is a segment. -/
  filled : ¬ ['/', '/'] <:+: path.toList
  closed : ['/'] <:+ path.toList → path = "/"

theorem isTidy_iff {path : String} :
    IsTidy path ↔ path = "/" ∨ ∃ cs, path.toList = '/' :: cs ∧ [] ∉ cs.splitOn '/' := by
  constructor
  · intro h
    obtain ⟨cs, hcs⟩ := h.rooted
    by_cases hroot : path = "/"
    · exact .inl hroot
    · refine .inr ⟨cs, hcs.symm, ?_⟩
      rw [Text.nil_mem_splitOn_iff.1, Text.pair_infix_concat_iff]
      rintro (hend | hpair)
      · exact hroot (h.closed (hcs ▸ hend))
      · exact h.filled (hcs ▸ hpair)
  · rintro (rfl | ⟨cs, hcs, hparts⟩)
    · exact ⟨by decide, by decide, fun _ => rfl⟩
    · rw [Text.nil_mem_splitOn_iff.1, Text.pair_infix_concat_iff, ← hcs, not_or] at hparts
      exact ⟨⟨cs, hcs.symm⟩, hparts.2, fun hend => absurd hend hparts.1⟩

theorem isTidy_normalize (path : String) : IsTidy (normalize path) := by
  rw [isTidy_iff]
  by_cases hnone : segments path = []
  · refine .inl ?_
    rw [normalize, hnone]
    rfl
  · have hcut : (['/'].intercalate (segments path)).splitOn '/' = segments path :=
      List.splitOn_intercalate '/' (fun _ hs => (isSegment_of_mem_segments hs).2) hnone
    refine .inr ⟨['/'].intercalate (segments path), String.toList_ofList, ?_⟩
    rw [hcut]
    intro hnil
    exact (isSegment_of_mem_segments hnil).1 rfl

theorem normalize_of_isTidy {path : String} (h : IsTidy path) : normalize path = path := by
  obtain rfl | ⟨cs, hcs, hparts⟩ := isTidy_iff.1 h
  · rfl
  · -- Nothing stands before the first slash, and every other part is a segment.
    have hsegments : segments path = cs.splitOn '/' := by
      rw [segments, hcs, List.splitOn_cons_eq_if_modifyHead]
      simpa using Text.filter_filled hparts
    rw [normalize, hsegments, ofSegments, List.intercalate_splitOn, ← hcs, String.ofList_toList]

theorem normalize_eq_self_iff {path : String} : normalize path = path ↔ IsTidy path :=
  ⟨fun h => h ▸ isTidy_normalize path, normalize_of_isTidy⟩

theorem normalize_eq_iff {p q : String} : normalize p = normalize q ↔ segments p = segments q := by
  constructor
  · intro h
    rw [← segments_normalize p, h, segments_normalize]
  · exact normalize_congr

theorem segments_append (p q : String) : segments (p ++ "/" ++ q) = segments p ++ segments q := by
  have hchars : (p ++ "/" ++ q).toList = p.toList ++ '/' :: q.toList := by simp
  rw [segments, hchars, List.splitOn_append_cons_self, List.filter_append, segments, segments]

theorem segments_under (parent child : String) :
    segments (under parent child) =
      if isRooted child then segments child else segments parent ++ segments child := by
  unfold under
  split
  · exact segments_normalize child
  · rw [segments_normalize, segments_append]

/-- Canonical spellings are tidy, and a tidy path is its own canonical spelling, so that spelling a
path canonically twice changes nothing more. Two paths have the same canonical spelling exactly when
they have the same segments. A child has the segments of its parent and then its own, unless it is
rooted. A table finds the same match for locations whose paths have the same segments. -/
theorem normalize_tidies (p q : String) :
    IsTidy (normalize p) ∧
    (normalize p = p ↔ IsTidy p) ∧
    normalize (normalize p) = normalize p ∧
    (normalize p = normalize q ↔ segments p = segments q) ∧
    segments (under p q) =
      (if isRooted q then segments q else segments p ++ segments q) ∧
    ∀ (table : RouteTable) (a b : Location), a.query = b.query →
      segments a.path = segments b.path → table.resolve a = table.resolve b := by
  refine ⟨isTidy_normalize p, normalize_eq_self_iff, normalize_normalize p, normalize_eq_iff,
    segments_under p q, ?_⟩
  intro table a b hquery hsame
  exact table.resolve_congr (normalize_congr hsame) hquery

theorem normalize_tidies_users :
    IsTidy "/users" ∧ segments "/users" = segments "users//" ∧
    normalize "users//" = "/users" ∧
    segments (under "/team/" "users//") = ["team".toList, "users".toList] ∧
    applicationTable.resolve ⟨"users//", [("page", "2")]⟩ =
      applicationTable.resolve ⟨"/users", [("page", "2")]⟩ ∧
    applicationTable.resolve ⟨"/users", [("page", "2")]⟩ ≠ none := by
  obtain ⟨-, htidy, -, hsame, -, hresolve⟩ := normalize_tidies "/users" "users//"
  obtain ⟨-, -, -, -, hunder, -⟩ := normalize_tidies "/team/" "users//"
  have hsegments : segments "/users" = segments "users//" := by decide
  refine ⟨htidy.1 rfl, hsegments, (hsame.2 hsegments).symm, hunder, ?_, by decide⟩
  exact (hresolve applicationTable ⟨"/users", [("page", "2")]⟩ ⟨"users//", [("page", "2")]⟩ rfl
    hsegments).symm

end Path

end ClientAccess
