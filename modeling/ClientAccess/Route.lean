import ClientAccess.Location
/-! The tree of routes, and the chains of records that matching works on. -/
namespace ClientAccess

/-- A node of the tree. Roles are an allow-list, empty for no restriction; a redirect sends
visits of this very node elsewhere. -/
inductive Route where
  | node (path : String) (name : Option String) (requiresAuth : Bool) (roles : List String)
      (redirect : Option String) (children : List Route)

structure Record where
  path : String
  name : Option String
  requiresAuth : Bool
  roles : List String
  redirect : Option String
  deriving DecidableEq, Repr

abbrev Chain := List Record

namespace Chain

def requiresAuth (c : Chain) : Bool := c.any (·.requiresAuth)

def addNew (roles : List String) (role : String) : List String :=
  if roles.contains role then roles else roles ++ [role]

/-- The roles of all records, each once, in order of first occurrence. -/
def requiredRoles (c : Chain) : List String :=
  (c.flatMap (·.roles)).foldl addNew []

def path? (c : Chain) : Option String := c.getLast?.map (·.path)

end Chain

def Route.record (parent : String) : Route → Record
  | .node path name requiresAuth roles redirect _ =>
    ⟨Path.under parent path, name, requiresAuth, roles, redirect⟩

mutual
def Route.chains (parent : String) (ancestors : Chain) : Route → List Chain
  | .node path name requiresAuth roles redirect children =>
    let record := Route.record parent (.node path name requiresAuth roles redirect children)
    (ancestors ++ [record]) :: Route.chainsOf record.path (ancestors ++ [record]) children

def Route.chainsOf (parent : String) (ancestors : Chain) : List Route → List Chain
  | [] => []
  | route :: routes =>
    Route.chains parent ancestors route ++ Route.chainsOf parent ancestors routes
end

end ClientAccess
