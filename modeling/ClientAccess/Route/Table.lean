import ClientAccess.Route
/-! Tables of routes: the chains of a forest in order of declaration, and matching a location
against them. The first declared node with the path wins. -/
namespace ClientAccess

structure Match where
  location : Location
  chain : Chain
  deriving DecidableEq, Repr

namespace Match

def fullPath (m : Match) : String := m.location.fullPath

def record? (m : Match) : Option Record := m.chain.getLast?

def requiresAuth (m : Match) : Bool := m.chain.requiresAuth

def requiredRoles (m : Match) : List String := m.chain.requiredRoles

end Match

structure RouteTable where
  chains : List Chain
  deriving DecidableEq, Repr

namespace RouteTable

def ofForest (routes : List Route) : RouteTable := ⟨Route.chainsOf "/" [] routes⟩

/-- The match of a location, its path brought to canonical form. -/
def resolve (table : RouteTable) (location : Location) : Option Match :=
  let path := Path.normalize location.path
  (table.chains.find? fun chain => chain.path? == some path).map fun chain =>
    ⟨⟨path, location.query⟩, chain⟩

def resolvePath (table : RouteTable) (text : String) : Option Match :=
  table.resolve (Location.parse text)

def paths (table : RouteTable) : List String :=
  table.chains.filterMap Chain.path?

end RouteTable

def applicationRoutes : List Route :=
  [.node "/login" (some "Login") false [] none [],
   .node "/register" (some "Register") false [] none [],
   .node "/" none true [] (some "/dashboard")
    [.node "dashboard" (some "Dashboard") false [] none [],
     .node "users" (some "UserList") true ["admin"] none [],
     .node "merchants" (some "MerchantList") false [] none [],
     .node "orders" (some "OrderList") false [] none []]]

def applicationTable : RouteTable := .ofForest applicationRoutes

end ClientAccess
