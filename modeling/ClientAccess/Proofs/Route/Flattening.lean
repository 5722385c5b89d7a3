import ClientAccess.Proofs.Location.Canonical
import ClientAccess.Proofs.Route.Tree
import Mathlib.Data.List.Forall2

/-! What a table keeps of a forest. A record says what its node says, and its path is that of the
node placed below the path of the record before. The ancestors of a node have chains of their own,
which are the beginnings of its chain; their addresses are the beginnings of its address and so come
before it. -/
namespace ClientAccess

theorem Path.normalize_under (parent child : String) :
    normalize (under parent child) = under parent child := by
  unfold under
  split
  · exact normalize_normalize _
  · exact normalize_normalize _

namespace Route

def name : Route → Option String
  | node _ name _ _ _ _ => name

def redirect : Route → Option String
  | node _ _ _ _ redirect _ => redirect

/-- The record of a node below a parent path. A rooted node is placed by its own path alone. -/
structure Recorded (parent : String) (route : Route) (record : Record) : Prop where
  name : record.name = route.name
  requiresAuth : record.requiresAuth = route.needsSession
  roles : record.roles = route.roles
  redirect : record.redirect = route.redirect
  rooted : Path.isRooted route.declared = true → record.path = Path.normalize route.declared
  placed : Path.isRooted route.declared = false →
    record.path = Path.normalize (parent ++ "/" ++ route.declared)

theorem recorded_record (parent : String) (route : Route) :
    route.Recorded parent (route.record parent) where
  name := by
    cases route
    rfl
  requiresAuth := requiresAuth_record parent route
  roles := roles_record parent route
  redirect := by
    cases route
    rfl
  rooted := by
    intro hroot
    rw [path_record, Path.under, if_pos hroot]
  placed := by
    intro hroot
    rw [path_record, Path.under, hroot]
    rfl

end Route

namespace Lineage

/-- The records of a node and its ancestors, each placed below the one before. -/
inductive Recorded : String → Lineage → Chain → Prop
  | nil {parent : String} : Recorded parent [] []
  | cons {parent : String} {route : Route} {record : Record} {line : Lineage} {chain : Chain}
    (here : route.Recorded parent record) (below : Recorded record.path line chain) :
    Recorded parent (route :: line) (record :: chain)

theorem recorded_records (line : Lineage) (parent : String) :
    line.Recorded parent (line.records parent) := by
  induction line generalizing parent with
  | nil => exact .nil
  | cons route line ih =>
    have hbelow := ih (route.record parent).path
    rw [Route.path_record] at hbelow
    exact .cons (route.recorded_record parent) (by rwa [Route.path_record])

@[simp] theorem length_records (line : Lineage) (parent : String) :
    (line.records parent).length = line.length := by
  induction line generalizing parent with
  | nil => rfl
  | cons route line ih => simp [records, ih]

theorem records_take (line : Lineage) (parent : String) (k : Nat) :
    (line.records parent).take k = records parent (line.take k) := by
  induction line generalizing parent k with
  | nil => simp [records]
  | cons route line ih =>
    cases k with
    | zero => rfl
    | succ k => rw [records, List.take_succ_cons, ih, List.take_succ_cons, records]

theorem normalize_of_mem_records {line : Lineage} {parent : String} {record : Record}
    (h : record ∈ line.records parent) : Path.normalize record.path = record.path := by
  induction line generalizing parent with
  | nil => cases h
  | cons route line ih =>
    obtain rfl | hbelow := List.mem_cons.1 h
    · rw [Route.path_record, Path.normalize_under]
    · exact ih hbelow

end Lineage

namespace Route

variable {forest : List Route} {address : List Nat} {line : Lineage}

theorem At.length_eq (h : At forest address line) : address.length = line.length := by
  induction h with
  | top here => rfl
  | under here deeper ih => rw [List.length_cons, List.length_cons, ih]

theorem At.take (h : At forest address line) (k : Nat) :
    At forest (address.take (k + 1)) (line.take (k + 1)) := by
  induction h generalizing k with
  | top here => simpa using At.top here
  | under here deeper ih =>
    cases k with
    | zero => exact .top here
    | succ k => exact .under here (ih k)

theorem take_lt {k : Nat} {address : List Nat} (h : k < address.length) :
    address.take k < address := by
  induction address generalizing k with
  | nil => cases h
  | cons i rest ih =>
    cases k with
    | zero => exact List.nil_lt_cons i rest
    | succ k =>
      rw [List.take_succ_cons]
      exact List.cons_lt_cons_iff.2 (.inr ⟨rfl, ih (Nat.lt_of_succ_lt_succ h)⟩)

theorem exists_earlier {n : Nat} {site other : Site} (h : (sitesOf 0 forest)[n]? = some site)
    (hother : other ∈ sitesOf 0 forest) (hlt : other.address < site.address) :
    ∃ m < n, (sitesOf 0 forest)[m]? = some other := by
  obtain ⟨m, hm⟩ := List.mem_iff_getElem?.1 hother
  refine ⟨m, ?_, hm⟩
  obtain ⟨hn, rfl⟩ := List.getElem?_eq_some_iff.1 h
  obtain ⟨hlen, rfl⟩ := List.getElem?_eq_some_iff.1 hm
  by_contra hle
  obtain hsame | hlater := Nat.eq_or_lt_of_le (Nat.not_lt.1 hle)
  · subst hsame
    exact List.lt_irrefl _ hlt
  · have hsorted := List.pairwise_iff_getElem.1 (pairwise_sitesOf forest 0) n m hn hlen hlater
    exact List.lt_irrefl _ (List.lt_trans hlt hsorted)

end Route

namespace RouteTable

variable {forest : List Route} {chain front : Chain} {n : Nat}

theorem getElem?_chains_ofForest : (ofForest forest).chains[n]? =
    (Route.sitesOf 0 forest)[n]?.map fun site => site.line.records "/" := by
  rw [chains_ofForest, List.getElem?_map]

theorem exists_earlier_chain (h : (ofForest forest).chains[n]? = some chain) (hne : front ≠ [])
    (hfront : front <+: chain) (hproper : front ≠ chain) :
    ∃ m < n, (ofForest forest).chains[m]? = some front := by
  rw [getElem?_chains_ofForest, Option.map_eq_some_iff] at h
  obtain ⟨site, hsite, rfl⟩ := h
  have hstands : Route.At forest site.address site.line :=
    Route.mem_sitesOf_zero_iff.1 (List.mem_of_getElem? hsite)
  have htake : front = (site.line.records "/").take front.length :=
    List.prefix_iff_eq_take.1 hfront
  have hshort : front.length < site.line.length := by
    rw [← Lineage.length_records site.line "/"]
    exact Nat.lt_of_le_of_ne hfront.length_le fun hsame => hproper (hfront.eq_of_length hsame)
  obtain ⟨k, hk⟩ : ∃ k, front.length = k + 1 :=
    Nat.exists_eq_succ_of_ne_zero fun h => hne (List.length_eq_zero_iff.1 h)
  rw [hk] at htake hshort
  have hancestor : (⟨site.address.take (k + 1), site.line.take (k + 1)⟩ : Route.Site) ∈
      Route.sitesOf 0 forest := Route.mem_sitesOf_zero_iff.2 (hstands.take k)
  obtain ⟨m, hm, hfound⟩ := Route.exists_earlier hsite hancestor
    (Route.take_lt (by rw [hstands.length_eq]; exact hshort))
  refine ⟨m, hm, ?_⟩
  rw [getElem?_chains_ofForest, hfound, htake, Lineage.records_take]
  rfl

theorem exists_line_of_mem_chains (h : chain ∈ (ofForest forest).chains) :
    ∃ address line, Route.At forest address line ∧ chain = line.records "/" := by
  rw [chains_ofForest, List.mem_map] at h
  obtain ⟨site, hsite, rfl⟩ := h
  exact ⟨site.address, site.line, Route.mem_sitesOf_zero_iff.1 hsite, rfl⟩

theorem map_path?_chains_ofForest (forest : List Route) :
    (ofForest forest).chains.map Chain.path? =
      (Route.sitesOf 0 forest).map fun site => some site.line.path := by
  rw [chains_ofForest, List.map_map]
  refine List.map_congr_left fun site hsite => ?_
  exact (Route.mem_sitesOf_zero_iff.1 hsite).path?_records

theorem map_some_paths_ofForest (forest : List Route) :
    (ofForest forest).paths.map some = (ofForest forest).chains.map Chain.path? := by
  have hpaths : (ofForest forest).paths =
      ((ofForest forest).chains.map Chain.path?).filterMap id := by
    rw [List.filterMap_map]
    rfl
  rw [hpaths, map_path?_chains_ofForest, List.filterMap_map]
  simp [Function.comp_def]

theorem normalize_of_mem_paths {path : String} (h : path ∈ (ofForest forest).paths) :
    Path.normalize path = path := by
  obtain ⟨chain, hchain, hpath⟩ := List.mem_filterMap.1 h
  obtain ⟨address, line, -, rfl⟩ := exists_line_of_mem_chains hchain
  obtain ⟨record, hrecord, rfl⟩ := Option.map_eq_some_iff.1 hpath
  exact Lineage.normalize_of_mem_records (List.mem_of_getLast? hrecord)

theorem resolve_listed {path : String} (h : path ∈ (ofForest forest).paths)
    (query : List (String × String)) :
    ∃ visit, (ofForest forest).resolve ⟨path, query⟩ = some visit ∧
      visit.location = ⟨path, query⟩ ∧ visit.chain ∈ (ofForest forest).chains ∧
        visit.chain.path? = some path := by
  have hcanonical := normalize_of_mem_paths h
  have hfound : (ofForest forest).resolve ⟨path, query⟩ ≠ none := by
    rw [ne_eq, resolve_eq_none_iff, not_not, hcanonical]
    exact h
  obtain ⟨visit, hvisit⟩ := Option.ne_none_iff_exists'.1 hfound
  have hplace : visit.location = ⟨path, query⟩ := location_of_resolve hvisit hcanonical
  obtain ⟨-, hchain, hpath⟩ := of_resolve hvisit
  rw [hplace] at hpath
  exact ⟨visit, hvisit, hplace, hchain, hpath⟩

/-- A table made of a forest has one chain for every node, in the order of the addresses of the
nodes, which is that of declaration with each node before its children. The chain of a node has the
records of its ancestors and its own. So no chain is empty, its beginnings are earlier chains, and
the path of every record is canonical. The paths of the table are those of the last records, and a
location at one of them is matched there, by a chain of the table that leads to this path. -/
theorem ofForest_flattens (forest : List Route) :
    ∃ nodes : List Route.Site,
      nodes.Pairwise (fun a b => a.address < b.address) ∧
      (∀ address line, ⟨address, line⟩ ∈ nodes ↔ Route.At forest address line) ∧
      List.Forall₂ (fun site chain => site.line.Recorded "/" chain) nodes
        (ofForest forest).chains ∧
      (∀ chain ∈ (ofForest forest).chains, chain ≠ []) ∧
      (∀ (n : Nat) (chain : Chain), (ofForest forest).chains[n]? = some chain →
        ∀ front : Chain, front ≠ [] → front <+: chain → front ≠ chain →
          ∃ m < n, (ofForest forest).chains[m]? = some front) ∧
      (∀ chain ∈ (ofForest forest).chains, ∀ record ∈ chain,
        Path.normalize record.path = record.path) ∧
      (ofForest forest).paths.map some = (ofForest forest).chains.map Chain.path? ∧
      ∀ path ∈ (ofForest forest).paths, ∀ query, ∃ visit,
        (ofForest forest).resolve ⟨path, query⟩ = some visit ∧ visit.location = ⟨path, query⟩ ∧
          visit.chain ∈ (ofForest forest).chains ∧ visit.chain.path? = some path := by
  refine ⟨Route.sitesOf 0 forest, Route.pairwise_sitesOf forest 0,
    fun _ _ => Route.mem_sitesOf_zero_iff, ?_, ?_, ?_, ?_, map_some_paths_ofForest forest, ?_⟩
  · rw [chains_ofForest, List.forall₂_map_right_iff]
    exact List.forall₂_same.2 fun site _ => site.line.recorded_records "/"
  · intro chain hchain
    obtain ⟨address, line, hstands, rfl⟩ := exists_line_of_mem_chains hchain
    intro hnil
    have hlength := Lineage.length_records line "/"
    rw [hnil] at hlength
    exact hstands.ne_nil (List.length_eq_zero_iff.1 hlength.symm)
  · intro n chain hchain front hne hfront hproper
    exact exists_earlier_chain hchain hne hfront hproper
  · intro chain hchain record hrecord
    obtain ⟨address, line, -, rfl⟩ := exists_line_of_mem_chains hchain
    exact Lineage.normalize_of_mem_records hrecord
  · intro path hpath query
    exact resolve_listed hpath query

example : (ofForest [.node "a/" none true [] none
    [.node "/b" none false [] none [.node "c" none false [] none []],
      .node "d" none false [] none []]]).paths = ["/a", "/b", "/b/c", "/a/d"] := by decide

end RouteTable

end ClientAccess
