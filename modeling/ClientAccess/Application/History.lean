import ClientAccess.Application.SignIn
/-! Histories: what can happen to a running application, one thing after the other. The answer to
a call is part of what happens, so a history has one outcome. -/
namespace ClientAccess

inductive Action where
  | establish (token : String) (user : Profile)
  | clear
  | login (credentials : Credentials) (answer : Answer)
  | register (registration : Registration) (answer : Answer)
  | logout
  | send (call : Call) (answer : Answer)
  | navigate (target : String)
  | push (path : String)
  | evaluate (visit : Match)

namespace Application

def perform (app : Application) (s : State) : Action → State
  | .establish token user => s.change (Session.establishing token user)
  | .clear => s.change Session.ending
  | .login credentials answer => (app.login (fun _ => answer) credentials s).2
  | .register registration answer => (app.register (fun _ => answer) registration s).2
  | .logout => app.logout s
  | .send call answer => (app.send (fun _ => answer) call s).2
  | .navigate target => (app.navigate target s).2
  | .push path => app.push path s
  | .evaluate visit => (app.evaluate visit s).2

def replay (app : Application) (s : State) (actions : List Action) : State :=
  actions.foldl app.perform s

@[simp] theorem replay_nil (app : Application) (s : State) : app.replay s [] = s := rfl

@[simp] theorem replay_cons (app : Application) (s : State) (a : Action) (as : List Action) :
    app.replay s (a :: as) = app.replay (app.perform s a) as := rfl

theorem replay_append (app : Application) (s : State) (as bs : List Action) :
    app.replay s (as ++ bs) = app.replay (app.replay s as) bs := by
  simp [replay, List.foldl_append]

end Application

end ClientAccess
