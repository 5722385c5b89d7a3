import ClientAccess.Application
/-! Navigation follows redirects hop by hop, those of records and those of the guard, until the
guard lets a visit proceed, a path is unknown, or too many hops have been made. -/
namespace ClientAccess

inductive Navigation.Refusal where
  | notFound (path : String)
  | redirectLoop (target : String)
  deriving DecidableEq, Repr

def Navigation.Refusal.message : Navigation.Refusal → String
  | notFound path => "no route matches " ++ path
  | redirectLoop target => "too many redirects navigating to " ++ target

namespace Application

inductive Hop where
  | unknown
  | moved (next : Location) (denied : Bool)
  | landed (place : Location)
  deriving DecidableEq, Repr

/-- Where a record's redirect leads: the query is kept unless the redirect has its own. -/
def redirected (redirect : String) (query : List (String × String)) : Location :=
  let next := Location.parse redirect
  if next.query.isEmpty then { next with query } else next

def hop (app : Application) (who : Snapshot) (location : Location) : Hop :=
  match app.table.resolve location with
  | none => .unknown
  | some visit =>
    match visit.record?.bind (·.redirect) with
    | some redirect => .moved (redirected redirect location.query) false
    | none =>
      let decision := app.guard.decide visit who
      match decision.location? app.guard with
      | some next => .moved next (decision == .toDefault)
      | none => .landed visit.location

def redirectLimit : Nat := 8

/-- Where the hops end, and whether one of them was a denial. `hops` bounds their number. -/
def follow (app : Application) (who : Snapshot) (target : String) (denied : Bool)
    (location : Location) : Nat → Except Navigation.Refusal Location × Bool
  | 0 => (.error (.redirectLoop target), denied)
  | hops + 1 =>
    match app.hop who location with
    | .unknown => (.error (.notFound location.fullPath), denied)
    | .landed place => (.ok place, denied)
    | .moved next d => app.follow who target (denied || d) next hops

/-- Goes to a target. A denial on the way is told once; only a landing changes where we are. -/
def navigate (app : Application) (target : String) (s : State) :
    Except Navigation.Refusal Location × State :=
  let (result, denied) :=
    app.follow s.snapshot target false (Location.parse target) (redirectLimit + 1)
  let s := if denied then s.notify unauthorizedMessage else s
  match result with
  | .ok place => (.ok place, { s with current := some place })
  | .error refusal => (.error refusal, s)

def push (app : Application) (path : String) (s : State) : State :=
  (app.navigate path (s.record (.pushed path))).2

def check (app : Application) (visit : Match) (s : State) : Decision :=
  app.guard.decide visit s.snapshot

def evaluate (app : Application) (visit : Match) (s : State) : Decision × State :=
  let decision := app.check visit s
  (decision, if decision == .toDefault then s.notify unauthorizedMessage else s)

end Application

end ClientAccess
