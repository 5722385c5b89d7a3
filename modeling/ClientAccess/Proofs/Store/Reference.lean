import ClientAccess.Proofs.Session.Change

/-! Stores as maps. What a change makes of a key follows from the change and from what was under the
key, so a store of any kind answers as a map does, whatever becomes of the disk in between. -/
namespace ClientAccess

/-- A map after a change. Of several pairs with one key the last counts. -/
def Change.update (change : Change) (map : String → Option String) (key : String) : Option String :=
  match change with
  | .set k value => if k = key then some value else map key
  | .remove k => if k = key then none else map key
  | .setAll pairs => (Entries.find? key pairs.reverse).or (map key)
  | .removeAll keys => if key ∈ keys then none else map key

theorem Entries.get?_apply (e : Entries String) (change : Change) :
    (e.apply change).get? = change.update e.get? := by
  funext key
  cases change with
  | set k value => exact get?_insert e k value key
  | remove k => exact get?_erase e k key
  | setAll pairs => exact get?_insertAll e pairs key
  | removeAll keys => exact get?_eraseAll e keys key

namespace Store

inductive Request where
  | get (key : String)
  | change (change : Change)
  deriving DecidableEq, Repr

def Request.answers : (String → Option String) → List Request → List (Option String)
  | _, [] => []
  | map, .get key :: rest => map key :: answers map rest
  | map, .change c :: rest => answers (c.update map) rest

def onDisk (s : Store) (disk : Disk) : Store := { s with disk }

/-- What a store answers to requests, each of which finds a disk of its own. -/
def answers : Store → List (Disk × Request) → List (Option String)
  | _, [] => []
  | s, (_, .get key) :: rest => s.get? key :: answers s rest
  | s, (disk, .change c) :: rest => answers ((s.onDisk disk).apply c) rest

theorem answers_eq (s : Store) (requests : List (Disk × Request)) :
    s.answers requests = Request.answers s.get? (requests.map Prod.snd) := by
  induction requests generalizing s with
  | nil => rfl
  | cons request rest ih =>
    obtain ⟨disk, request⟩ := request
    cases request with
    | get key =>
      rw [answers, ih]
      rfl
    | change change =>
      have hupdate : ((s.onDisk disk).apply change).get? = change.update s.get? :=
        (funext (get?_apply (s.onDisk disk) change)).trans (Entries.get?_apply s.entries change)
      rw [answers, ih, hupdate]
      rfl

end Store

end ClientAccess
