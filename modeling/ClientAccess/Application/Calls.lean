import ClientAccess.Application.Navigation
/-! Calls: attaching the stored credential, and settling the answer. Every refusal is told to the
user once; an expired session is ended first and the sign-in page is pushed last. -/
namespace ClientAccess

abbrev Transport := OutgoingRequest → Answer

namespace Application

def prepare (app : Application) (call : Call) (store : Store) : OutgoingRequest :=
  { method := call.method
    url := app.urlFor call.path
    query := call.query
    headers := ((Session.token? store).map fun t => ("Authorization", t)).toList
    body := call.body }

def reject (app : Application) (refusal : Refusal) (s : State) : State :=
  if refusal.isExpired then
    app.push app.loginPath ((s.change Session.ending).notify refusal.message)
  else s.notify refusal.message

def settle (app : Application) (answer : Answer) (s : State) : Except Refusal Json × State :=
  match answer.outcome with
  | .ok value => (.ok value, s)
  | .error refusal => (.error refusal, app.reject refusal s)

def send (app : Application) (transport : Transport) (call : Call) (s : State) :
    Except Refusal Json × State :=
  let request := app.prepare call s.store
  app.settle (transport request) (s.record (.sent request))

end Application

end ClientAccess
