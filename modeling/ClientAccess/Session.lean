import ClientAccess.Profile
import ClientAccess.Store
/-! The session is what two keys of a store say: the token and the profile of its owner. -/
namespace ClientAccess.Session

def tokenKey : String := "auth_token"

def userKey : String := "auth_user"

def token? (s : Store) : Option String := (s.get? tokenKey).filter (· != "")

def user? (s : Store) : Option Profile := (s.get? userKey).bind Profile.decode?

def snapshot (s : Store) : Snapshot := ⟨token? s, user? s⟩

/-- The change that establishes a session: the profile first, then the token. -/
def establishing (token : String) (user : Profile) : Change :=
  .setAll [(userKey, user.encode), (tokenKey, token)]

def ending : Change := .removeAll [tokenKey, userKey]

def establish (s : Store) (token : String) (user : Profile) : Store :=
  s.apply (establishing token user)

def clear (s : Store) : Store := s.apply ending

def describe (s : Store) : String :=
  "SessionStore \x7b authenticated: " ++ toString (token? s).isSome ++ ", .. \x7d"

end ClientAccess.Session
