import ClientAccess.Route.Table

/-! The tree behind a table. The address of a node counts the siblings before each of its ancestors
and before the node itself, so the order of addresses is the order of declaration, each node before
its children. A table made of a forest has one chain for every node, in this order: the records of
its ancestors and its own. -/
namespace ClientAccess

namespace Route

def declared : Route → String
  | node path _ _ _ _ _ => path

def needsSession : Route → Bool
  | node _ _ requiresAuth _ _ _ => requiresAuth

def roles : Route → List String
  | node _ _ _ roles _ _ => roles

def children : Route → List Route
  | node _ _ _ _ _ children => children

@[simp] theorem path_record (parent : String) (route : Route) :
    (route.record parent).path = Path.under parent route.declared := by
  cases route
  rfl

@[simp] theorem requiresAuth_record (parent : String) (route : Route) :
    (route.record parent).requiresAuth = route.needsSession := by
  cases route
  rfl

@[simp] theorem roles_record (parent : String) (route : Route) :
    (route.record parent).roles = route.roles := by
  cases route
  rfl

end Route

abbrev Lineage := List Route

namespace Lineage

def pathBelow (parent : String) (line : Lineage) : String :=
  line.foldl (fun parent route => Path.under parent route.declared) parent

def path (line : Lineage) : String := pathBelow "/" line

def records (parent : String) : Lineage → Chain
  | [] => []
  | route :: line => route.record parent :: records (Path.under parent route.declared) line

theorem path?_records {line : Lineage} (h : line ≠ []) (parent : String) :
    (line.records parent).path? = some (line.pathBelow parent) := by
  induction line generalizing parent with
  | nil => exact absurd rfl h
  | cons route line ih =>
    cases line with
    | nil => simp [records, Chain.path?, pathBelow]
    | cons child line =>
      have hrest := ih (List.cons_ne_nil child line) (Path.under parent route.declared)
      simpa [records, Chain.path?, pathBelow] using hrest

theorem requiresAuth_records (line : Lineage) (parent : String) :
    (line.records parent).requiresAuth = line.any (·.needsSession) := by
  induction line generalizing parent with
  | nil => rfl
  | cons route line ih =>
    have hrest := ih (Path.under parent route.declared)
    rw [Chain.requiresAuth] at hrest
    simp [records, Chain.requiresAuth, hrest]

theorem flatMap_roles_records (line : Lineage) (parent : String) :
    (line.records parent).flatMap (·.roles) = line.flatMap Route.roles := by
  induction line generalizing parent with
  | nil => rfl
  | cons route line ih => simp [records, ih]

end Lineage

namespace Route

/-- The node at an address of a forest, with its ancestors. -/
inductive At : List Route → List Nat → Lineage → Prop where
  | top {forest : List Route} {i : Nat} {route : Route} (here : forest[i]? = some route) :
    At forest [i] [route]
  | under {forest : List Route} {i : Nat} {route : Route} {address : List Nat} {line : Lineage}
    (here : forest[i]? = some route) (deeper : At route.children address line) :
    At forest (i :: address) (route :: line)

theorem At.ne_nil {forest : List Route} {address : List Nat} {line : Lineage}
    (h : At forest address line) : line ≠ [] := by
  cases h with
  | top here => exact List.cons_ne_nil _ _
  | under here deeper => exact List.cons_ne_nil _ _

theorem At.path?_records {forest : List Route} {address : List Nat} {line : Lineage}
    (h : At forest address line) : (line.records "/").path? = some line.path :=
  Lineage.path?_records h.ne_nil "/"

structure Site where
  address : List Nat
  line : Lineage

def Site.under (i : Nat) (route : Route) (site : Site) : Site :=
  ⟨i :: site.address, route :: site.line⟩

mutual
def sites (i : Nat) : Route → List Site
  | node path name requiresAuth roles redirect children =>
    let route := node path name requiresAuth roles redirect children
    ⟨[i], [route]⟩ :: (sitesOf 0 children).map (Site.under i route)

def sitesOf (i : Nat) : List Route → List Site
  | [] => []
  | route :: routes => sites i route ++ sitesOf (i + 1) routes
end

theorem sitesOf_cons (i : Nat) (route : Route) (routes : List Route) :
    sitesOf i (route :: routes) =
      ⟨[i], [route]⟩ :: (sitesOf 0 route.children).map (Site.under i route) ++
        sitesOf (i + 1) routes := by
  cases route
  rfl

theorem chainsOf_cons (parent : String) (ancestors : Chain) (route : Route) (routes : List Route) :
    chainsOf parent ancestors (route :: routes) =
      (ancestors ++ [route.record parent]) ::
          chainsOf (Path.under parent route.declared) (ancestors ++ [route.record parent])
            route.children ++
        chainsOf parent ancestors routes := by
  cases route
  rfl

/-- What holds of no nodes, and of nodes side by side if it holds below the first of them and of
the others, holds of every forest. -/
theorem forest_induction {motive : List Route → Prop} (nil : motive [])
    (cons : ∀ route routes, motive route.children → motive routes → motive (route :: routes)) :
    ∀ forest, motive forest
  | [] => nil
  | node path name requiresAuth roles redirect children :: routes =>
    cons (node path name requiresAuth roles redirect children) routes
      (forest_induction nil cons children) (forest_induction nil cons routes)

theorem chainsOf_eq_map (forest : List Route) (i : Nat) (parent : String) (ancestors : Chain) :
    chainsOf parent ancestors forest =
      (sitesOf i forest).map fun site => ancestors ++ site.line.records parent := by
  induction forest using forest_induction generalizing i parent ancestors with
  | nil => rfl
  | cons route routes below beside =>
    rw [chainsOf_cons, sitesOf_cons, below 0, beside (i + 1), List.map_append, List.map_cons,
      List.map_map]
    simp [Function.comp_def, Site.under, Lineage.records]

theorem mem_sitesOf {site : Site} {i : Nat} {forest : List Route} :
    site ∈ sitesOf i forest ↔ ∃ j route, forest[j]? = some route ∧
      (site = ⟨[i + j], [route]⟩ ∨
        ∃ deeper ∈ sitesOf 0 route.children, site = deeper.under (i + j) route) := by
  induction forest generalizing i with
  | nil => simp [sitesOf]
  | cons first rest ih =>
    rw [sitesOf_cons, List.mem_append, List.mem_cons, List.mem_map, ih]
    constructor
    · rintro ((hself | ⟨deeper, hdeeper, hsite⟩) | ⟨j, route, hroute, hsite⟩)
      · exact ⟨0, first, rfl, .inl hself⟩
      · exact ⟨0, first, rfl, .inr ⟨deeper, hdeeper, hsite.symm⟩⟩
      · have hcount : i + 1 + j = i + (j + 1) := by omega
        exact ⟨j + 1, route, hroute, hcount ▸ hsite⟩
    · rintro ⟨j, route, hroute, hsite⟩
      cases j with
      | zero =>
        cases hroute
        rcases hsite with hself | ⟨deeper, hdeeper, hsite⟩
        · exact .inl (.inl hself)
        · exact .inl (.inr ⟨deeper, hdeeper, hsite.symm⟩)
      | succ j =>
        have hcount : i + (j + 1) = i + 1 + j := by omega
        exact .inr ⟨j, route, hroute, hcount ▸ hsite⟩

theorem exists_address_of_mem_sitesOf {site : Site} {i : Nat} {forest : List Route}
    (h : site ∈ sitesOf i forest) : ∃ j rest, site.address = (i + j) :: rest := by
  obtain ⟨j, route, -, rfl | ⟨deeper, -, rfl⟩⟩ := mem_sitesOf.1 h
  · exact ⟨j, [], rfl⟩
  · exact ⟨j, deeper.address, rfl⟩

theorem mem_sitesOf_zero_iff {forest : List Route} {address : List Nat} {line : Lineage} :
    ⟨address, line⟩ ∈ sitesOf 0 forest ↔ At forest address line := by
  constructor
  · -- One number of the address for each step down.
    intro h
    induction address generalizing forest line with
    | nil =>
      obtain ⟨j, rest, haddress⟩ := exists_address_of_mem_sitesOf h
      cases haddress
    | cons i address ih =>
      obtain ⟨j, route, hroute, hself | ⟨deeper, hdeeper, hsite⟩⟩ := mem_sitesOf.1 h
      · cases hself
        rw [Nat.zero_add]
        exact .top hroute
      · cases hsite
        rw [Nat.zero_add]
        exact .under hroute (ih hdeeper)
  · intro h
    induction h with
    | @top forest i route here =>
      exact mem_sitesOf.2 ⟨i, route, here, .inl (by rw [Nat.zero_add])⟩
    | @under forest i route address line here deeper ih =>
      exact mem_sitesOf.2 ⟨i, route, here, .inr ⟨⟨address, line⟩, ih, by rw [Nat.zero_add]; rfl⟩⟩

theorem pairwise_sitesOf (forest : List Route) (i : Nat) :
    (sitesOf i forest).Pairwise fun a b => a.address < b.address := by
  induction forest using forest_induction generalizing i with
  | nil => exact .nil
  | cons route routes below beside =>
    have hdeeper : ((sitesOf 0 route.children).map (Site.under i route)).Pairwise
        fun a b => a.address < b.address := by
      rw [List.pairwise_map]
      exact (below 0).imp fun h => List.cons_lt_cons_iff.2 (.inr ⟨rfl, h⟩)
    rw [sitesOf_cons, List.cons_append, List.pairwise_cons, List.pairwise_append]
    refine ⟨?_, hdeeper, beside (i + 1), ?_⟩
    · intro site hsite
      rcases List.mem_append.1 hsite with hsite | hsite
      · obtain ⟨deeper, hdeeper, rfl⟩ := List.mem_map.1 hsite
        obtain ⟨j, rest, haddress⟩ := exists_address_of_mem_sitesOf hdeeper
        refine List.cons_lt_cons_iff.2 (.inr ⟨rfl, ?_⟩)
        rw [haddress]
        exact List.nil_lt_cons _ _
      · obtain ⟨j, rest, haddress⟩ := exists_address_of_mem_sitesOf hsite
        rw [haddress]
        exact List.cons_lt_cons_iff.2 (.inl (by omega))
    · intro a ha b hb
      obtain ⟨deeper, -, rfl⟩ := List.mem_map.1 ha
      obtain ⟨j, rest, haddress⟩ := exists_address_of_mem_sitesOf hb
      rw [haddress]
      exact List.cons_lt_cons_iff.2 (.inl (by omega))

end Route

theorem RouteTable.chains_ofForest (forest : List Route) :
    (RouteTable.ofForest forest).chains =
      (Route.sitesOf 0 forest).map fun site => site.line.records "/" := by
  rw [ofForest, Route.chainsOf_eq_map forest 0]
  simp

end ClientAccess
