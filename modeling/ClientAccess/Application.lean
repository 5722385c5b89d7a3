import ClientAccess.Answer
import ClientAccess.Call
import ClientAccess.Guard
import ClientAccess.Session
import ClientAccess.Text.Quoted
/-! The application: its fixed wiring, its state, and the effects it has on the outside, recorded
in the order in which they happen. -/
namespace ClientAccess

structure Application where
  table : RouteTable
  guard : Guard
  baseUrl : String
  loginPath : String

inductive Effect where
  | sent (request : OutgoingRequest)
  | changed (change : Change)
  | notified (message : String)
  | pushed (path : String)

structure State where
  store : Store
  current : Option Location
  trace : List Effect

namespace State

def ofStore (store : Store) : State := ⟨store, none, []⟩

def record (s : State) (e : Effect) : State := { s with trace := s.trace ++ [e] }

def notify (s : State) (message : String) : State := s.record (.notified message)

def change (s : State) (c : Change) : State :=
  { s with store := s.store.apply c }.record (.changed c)

def snapshot (s : State) : Snapshot := Session.snapshot s.store

end State

namespace Application

def ofBaseUrl (table : RouteTable) (guard : Guard) (baseUrl loginPath : String) : Application :=
  ⟨table, guard, Text.dropSlashes baseUrl, loginPath⟩

/-- The address of a path: the path itself without a base url, otherwise below it. -/
def urlFor (app : Application) (path : String) : String :=
  if app.baseUrl == "" then path
  else if Path.isRooted path then app.baseUrl ++ path
  else app.baseUrl ++ "/" ++ path

def describe (app : Application) (s : State) : String :=
  "Pipeline \x7b base_url: " ++ Text.quoted app.baseUrl ++ ", login_path: " ++
    Text.quoted app.loginPath ++ ", session: " ++ Session.describe s.store ++ ", .. \x7d"

end Application

end ClientAccess
