import ClientAccess.Proofs.Entries
import ClientAccess.Session

/-! Changes to a store seen through its keys. Every kind of store carries a change out on the same
map, with batches or key by key and whatever becomes of the disk, so what the session is after a
change depends on the change alone. -/
namespace ClientAccess

namespace Entries

theorem foldl_keySteps (e : Entries String) (change : Change) :
    change.keySteps.foldl applyStep e = e.apply change := by
  cases change with
  | set key value => rfl
  | remove key => rfl
  | setAll pairs => simp only [Change.keySteps, List.foldl_map]; rfl
  | removeAll keys => simp only [Change.keySteps, List.foldl_map]; rfl

end Entries

namespace Store

theorem entries_apply (s : Store) (change : Change) :
    (s.apply change).entries = s.entries.apply change := by
  obtain ⟨kind, entries, disk⟩ := s
  cases kind with
  | memory => rfl
  | file path => rfl
  | single => exact Entries.foldl_keySteps entries change

theorem get?_apply (s : Store) (change : Change) (key : String) :
    (s.apply change).get? key = (s.entries.apply change).get? key := by
  rw [get?, entries_apply]

end Store

namespace Session

theorem get?_tokenKey_establishing (s : Store) (token : String) (user : Profile) :
    (s.apply (establishing token user)).get? tokenKey = some token := by
  rw [Store.get?_apply]
  simp [establishing, Entries.apply, Entries.insertAll, Entries.get?_insert]

theorem get?_userKey_establishing (s : Store) (token : String) (user : Profile) :
    (s.apply (establishing token user)).get? userKey = some user.encode := by
  have hkeys : tokenKey ≠ userKey := by decide
  rw [Store.get?_apply]
  simp [establishing, Entries.apply, Entries.insertAll, Entries.get?_insert, hkeys]

theorem token?_establishing (s : Store) (token : String) (user : Profile) :
    token? (s.apply (establishing token user)) = if token = "" then none else some token := by
  rw [token?, get?_tokenKey_establishing]
  by_cases ht : token = ""
  · simp [ht]
  · simp [Option.filter, ht]

theorem user?_establishing (s : Store) (token : String) (user : Profile) :
    user? (s.apply (establishing token user)) = Profile.decode? user.encode := by
  rw [user?, get?_userKey_establishing, Option.bind_some]

theorem get?_ending (s : Store) (key : String) :
    (s.apply ending).get? key = if key = tokenKey ∨ key = userKey then none else s.get? key := by
  rw [Store.get?_apply, ending, Entries.apply, Entries.get?_eraseAll]
  simp [Store.get?]

theorem token?_ending (s : Store) : token? (s.apply ending) = none := by
  rw [token?, get?_ending, if_pos (.inl rfl)]
  rfl

end Session

end ClientAccess
