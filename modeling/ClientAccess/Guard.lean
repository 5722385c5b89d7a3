import ClientAccess.Profile
import ClientAccess.Route.Table
/-! The guard decides what becomes of a visit. The rules apply in order: a chain that needs a
session sends visitors without one to the sign-in page, with the way back; a chain that needs a
role sends visitors without it to the default page; the sign-in page sends visitors with a session
to the root; every other visit goes on. -/
namespace ClientAccess

structure Guard where
  loginPath : String
  defaultPath : String
  rootPath : String
  deriving DecidableEq, Repr

def Guard.standard : Guard := ⟨"/login", "/dashboard", "/"⟩

inductive Decision where
  | proceed
  | toLogin (wayBack : String)
  | toDefault
  | toRoot
  deriving DecidableEq, Repr

namespace Decision

def location? (g : Guard) : Decision → Option Location
  | proceed => none
  | toLogin wayBack => some ((Location.ofPath g.loginPath).addQuery "redirect" wayBack)
  | toDefault => some (Location.ofPath g.defaultPath)
  | toRoot => some (Location.ofPath g.rootPath)

end Decision

/-- Whether a role is on the allow-list; nobody is turned away by an empty one. -/
def permits (required : List String) (role : Option String) : Bool :=
  required.isEmpty || role.any required.contains

namespace Guard

def decide (g : Guard) (visit : Match) (who : Snapshot) : Decision :=
  if visit.requiresAuth && !who.isAuthenticated then .toLogin visit.fullPath
  else if !permits visit.requiredRoles who.role then .toDefault
  else if visit.location.path == g.loginPath && who.isAuthenticated then .toRoot
  else .proceed

end Guard

def unauthorizedMessage : String := "you are not authorized to access this page"

end ClientAccess
