import ClientAccess.Proofs.Route.Roles
import ClientAccess.Proofs.Route.Tree

/-! What nodes inherit. A node needs a session if it or an ancestor says so, and asks for the roles
of all of them. A table made of a forest matches a location with the first node that has its path,
and the guard decides on the match as these rules say of the node. -/
namespace ClientAccess

namespace Lineage

variable {line : Lineage} {parent : String}

theorem mem_requiredRoles_records {role : String} :
    role ∈ (line.records parent).requiredRoles ↔ ∃ route ∈ line, role ∈ route.roles := by
  rw [Chain.mem_requiredRoles, flatMap_roles_records, List.mem_flatMap]

theorem requiredRoles_records_ne_nil_iff :
    (line.records parent).requiredRoles ≠ [] ↔ ∃ route ∈ line, route.roles ≠ [] := by
  constructor
  · intro h
    obtain ⟨role, hrole⟩ := List.exists_mem_of_ne_nil _ h
    obtain ⟨route, hroute, hrole⟩ := mem_requiredRoles_records.1 hrole
    exact ⟨route, hroute, List.ne_nil_of_mem hrole⟩
  · rintro ⟨route, hroute, h⟩
    obtain ⟨role, hrole⟩ := List.exists_mem_of_ne_nil _ h
    exact List.ne_nil_of_mem (mem_requiredRoles_records.2 ⟨route, hroute, hrole⟩)

end Lineage

namespace Route

/-- The first node in order of declaration that has a path. -/
structure First (forest : List Route) (path : String) (address : List Nat) (line : Lineage) :
    Prop where
  stands : At forest address line
  leads : line.path = path
  first : ∀ earlier other, At forest earlier other → earlier < address → other.path ≠ path

theorem first_of_find? {forest : List Route} {path : String} {site : Site}
    (h : (sitesOf 0 forest).find? (fun site => (site.line.records "/").path? == some path) =
      some site) : First forest path site.address site.line := by
  obtain ⟨hpath, before, after, hsites, hbefore⟩ := List.find?_eq_some_iff_append.1 h
  have hstands : At forest site.address site.line := by
    rw [← mem_sitesOf_zero_iff, hsites]
    simp
  refine ⟨hstands, ?_, ?_⟩
  · rw [hstands.path?_records] at hpath
    simpa using hpath
  · intro earlier other hother hlt hsame
    have hmem := mem_sitesOf_zero_iff.2 hother
    have hsorted := pairwise_sitesOf forest 0
    rw [hsites] at hmem hsorted
    rcases List.mem_append.1 hmem with hmem | hmem
    · have hmiss := hbefore _ hmem
      rw [hother.path?_records] at hmiss
      exact absurd hsame (by simpa using hmiss)
    · rcases List.mem_cons.1 hmem with rfl | hmem
      · exact List.lt_irrefl _ hlt
      · have hlater := (List.pairwise_cons.1 (List.pairwise_append.1 hsorted).2.1).1 _ hmem
        exact List.lt_irrefl _ (List.lt_trans hlt hlater)

end Route

namespace RouteTable

theorem exists_first_of_resolve_ofForest {forest : List Route} {location : Location} {visit : Match}
    (h : (ofForest forest).resolve location = some visit) :
    ∃ address line, Route.First forest (Path.normalize location.path) address line ∧
      visit = ⟨⟨line.path, location.query⟩, line.records "/"⟩ := by
  rw [resolve, chains_ofForest, List.find?_map, Option.map_map, Option.map_eq_some_iff] at h
  obtain ⟨site, hfind, rfl⟩ := h
  have hfirst := Route.first_of_find? hfind
  exact ⟨site.address, site.line, hfirst, by rw [hfirst.leads]; rfl⟩

theorem exists_resolve_ofForest_iff {forest : List Route} {location : Location} :
    (∃ visit, (ofForest forest).resolve location = some visit) ↔
      ∃ address line, Route.At forest address line ∧
        line.path = Path.normalize location.path := by
  constructor
  · rintro ⟨visit, h⟩
    obtain ⟨address, line, hfirst, -⟩ := exists_first_of_resolve_ofForest h
    exact ⟨address, line, hfirst.stands, hfirst.leads⟩
  · rintro ⟨address, line, hstands, hleads⟩
    rw [← Option.isSome_iff_exists, resolve, Option.isSome_map, List.find?_isSome, chains_ofForest]
    refine ⟨line.records "/", List.mem_map.2 ⟨_, Route.mem_sitesOf_zero_iff.2 hstands, rfl⟩, ?_⟩
    rw [hstands.path?_records, ← hleads]
    exact beq_self_eq_true _

end RouteTable

/-- The rules of the guard as they read on the tree, for a node and its ancestors. -/
def Guard.judge (g : Guard) (line : Lineage) (query : List (String × String)) (who : Snapshot) :
    Decision :=
  if who.token = none ∧ ∃ route ∈ line, route.needsSession = true then
    .toLogin (Location.fullPath ⟨line.path, query⟩)
  else if (∃ route ∈ line, route.roles ≠ []) ∧
      ¬ ∃ role ∈ who.role, ∃ route ∈ line, role ∈ route.roles then .toDefault
  else if line.path = g.loginPath ∧ who.token ≠ none then .toRoot
  else .proceed

theorem Guard.decide_records (g : Guard) (line : Lineage) (query : List (String × String))
    (who : Snapshot) :
    g.decide ⟨⟨line.path, query⟩, line.records "/"⟩ who = g.judge line query who := by
  have hauth : ((line.records "/").requiresAuth && !who.isAuthenticated) = true ↔
      who.token = none ∧ ∃ route ∈ line, route.needsSession = true := by
    rw [Lineage.requiresAuth_records]
    simp [Snapshot.isAuthenticated, and_comm]
  have hrole : (!permits (line.records "/").requiredRoles who.role) = true ↔
      (∃ route ∈ line, route.roles ≠ []) ∧
        ¬ ∃ role ∈ who.role, ∃ route ∈ line, role ∈ route.roles := by
    rw [Bool.not_eq_true', ← Bool.not_eq_true, permits_iff,
      Lineage.requiredRoles_records_ne_nil_iff, Classical.not_imp]
    simp only [Lineage.mem_requiredRoles_records]
    refine and_congr_right fun _ => not_congr ⟨?_, ?_⟩
    · rintro ⟨role, hlisted, hrole⟩
      exact ⟨role, hrole, hlisted⟩
    · rintro ⟨role, hrole, hlisted⟩
      exact ⟨role, hlisted, hrole⟩
  have hlogin : (line.path == g.loginPath && who.isAuthenticated) = true ↔
      line.path = g.loginPath ∧ who.token ≠ none := by
    simp [Snapshot.isAuthenticated_iff]
  simp only [decide, judge, Match.requiresAuth, Match.requiredRoles, Match.fullPath, hauth, hrole,
    hlogin]

/-- A table made of a forest matches a location exactly when some node has its path. The match is
that of the first such node in order of declaration: its path, the query as it was, and the records
of the node and its ancestors; and whoever visits it, the guard decides by what the node and its
ancestors need. -/
theorem RouteTable.ofForest_guards_tree (forest : List Route) (location : Location) :
    ((∃ visit, (ofForest forest).resolve location = some visit) ↔
      ∃ address line, Route.At forest address line ∧
        line.path = Path.normalize location.path) ∧
    ∀ visit, (ofForest forest).resolve location = some visit →
      ∃ address line, Route.First forest (Path.normalize location.path) address line ∧
        visit.location = ⟨line.path, location.query⟩ ∧ visit.chain = line.records "/" ∧
        ∀ (g : Guard) (who : Snapshot), g.decide visit who = g.judge line location.query who := by
  refine ⟨exists_resolve_ofForest_iff, ?_⟩
  intro visit h
  obtain ⟨address, line, hfirst, rfl⟩ := exists_first_of_resolve_ofForest h
  exact ⟨address, line, hfirst, rfl, rfl,
    fun g who => g.decide_records line location.query who⟩

def library : List Route :=
  [.node "books" none true [] none [.node "shelf//" none false ["librarian"] none []],
   .node "/books/shelf" none false [] none []]

theorem RouteTable.library_guards_first_shelf :
    ∃ visit, (ofForest library).resolve ⟨"books//shelf", [("row", "1")]⟩ = some visit ∧
      ∃ address line, Route.First library "/books/shelf" address line ∧
        visit.chain = line.records "/" ∧
        Guard.standard.judge line [("row", "1")] ⟨none, some ⟨"1", some "librarian", .empty⟩⟩ =
          .toLogin "/books/shelf?row=1" := by
  obtain ⟨-, hmatch⟩ := ofForest_guards_tree library ⟨"books//shelf", [("row", "1")]⟩
  obtain ⟨address, line, hfirst, -, hchain, hdecide⟩ := hmatch _ rfl
  exact ⟨_, rfl, address, line, hfirst, hchain, (hdecide _ _).symm.trans rfl⟩

end ClientAccess
