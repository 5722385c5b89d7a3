import ClientAccess.Proofs.Text.Split
import ClientAccess.Route.Table

/-! Canonical spellings. Segments are not empty and hold no slash, so writing them and cutting the
result gives them back: a canonical path is its own spelling, and what a table finds for a location
it finds again at the place it names. -/
namespace ClientAccess.Path

def IsSegment (segment : List Char) : Prop := segment ≠ [] ∧ '/' ∉ segment

theorem isSegment_of_mem_segments {path : String} {segment : List Char}
    (h : segment ∈ segments path) : IsSegment segment := by
  rw [segments, List.mem_filter] at h
  exact ⟨by simpa using h.2, Text.not_mem_of_mem_splitOn h.1⟩

theorem segments_ofSegments {parts : List (List Char)} (h : ∀ s ∈ parts, IsSegment s) :
    segments (ofSegments parts) = parts := by
  have hkeep : parts.filter (fun s => !s.isEmpty) = parts :=
    Text.filter_filled fun hnil => (h [] hnil).1 rfl
  rw [segments, ofSegments, String.toList_ofList, List.splitOn_cons_eq_if_modifyHead]
  cases parts with
  | nil => rfl
  | cons first rest =>
    have hcut := List.splitOn_intercalate '/' (fun s hs => (h s hs).2) (List.cons_ne_nil first rest)
    rw [hcut]
    simpa using hkeep

@[simp] theorem segments_normalize (path : String) :
    segments (normalize path) = segments path :=
  segments_ofSegments fun _ hs => isSegment_of_mem_segments hs

@[simp] theorem normalize_normalize (path : String) :
    normalize (normalize path) = normalize path :=
  normalize_congr (segments_normalize path)

end ClientAccess.Path

namespace ClientAccess.RouteTable

/-- A match is a chain of the table that leads to the path asked for, with the query kept. -/
theorem of_resolve {table : RouteTable} {location : Location} {visit : Match}
    (h : table.resolve location = some visit) :
    visit.location = ⟨Path.normalize location.path, location.query⟩ ∧
      visit.chain ∈ table.chains ∧ visit.chain.path? = some visit.location.path := by
  rw [resolve, Option.map_eq_some_iff] at h
  obtain ⟨chain, hfind, rfl⟩ := h
  have hpath := List.find?_some hfind
  exact ⟨rfl, List.mem_of_find?_eq_some hfind, by simpa using hpath⟩

theorem resolve_eq_none_iff {table : RouteTable} {location : Location} :
    table.resolve location = none ↔ Path.normalize location.path ∉ table.paths := by
  simp [resolve, paths]

theorem resolve_congr (table : RouteTable) {a b : Location}
    (hpath : Path.normalize a.path = Path.normalize b.path) (hquery : a.query = b.query) :
    table.resolve a = table.resolve b := by
  rw [resolve, resolve, hpath, hquery]

theorem resolve_location {table : RouteTable} {location : Location} {visit : Match}
    (h : table.resolve location = some visit) : table.resolve visit.location = some visit := by
  obtain ⟨hplace, -, -⟩ := of_resolve h
  rw [← h, hplace]
  exact resolve_congr table (Path.normalize_normalize location.path) rfl

theorem record?_of_resolve {table : RouteTable} {location : Location} {visit : Match}
    (h : table.resolve location = some visit) : ∃ record, visit.record? = some record := by
  obtain ⟨-, -, hpath⟩ := of_resolve h
  rw [Chain.path?, Option.map_eq_some_iff] at hpath
  obtain ⟨record, hlast, -⟩ := hpath
  exact ⟨record, hlast⟩

theorem resolve_of_path {table : RouteTable} {a b : Location} {visit : Match}
    (h : table.resolve a = some visit) (hpath : b.path = a.path)
    (hcanonical : Path.normalize b.path = b.path) :
    table.resolve b = some ⟨b, visit.chain⟩ := by
  rw [resolve, Option.map_eq_some_iff] at h
  obtain ⟨chain, hfind, rfl⟩ := h
  rw [← hpath, hcanonical] at hfind
  rw [resolve, hcanonical, hfind]
  rfl

theorem location_of_resolve {table : RouteTable} {x : Location} {visit : Match}
    (h : table.resolve x = some visit) (hcanonical : Path.normalize x.path = x.path) :
    visit.location = x := by
  obtain ⟨hlocation, -, -⟩ := of_resolve h
  rw [hlocation, hcanonical]

end ClientAccess.RouteTable
