import ClientAccess.Store
/-! Batches over a backend that may reject single writes: when one is rejected, the keys written
before it are removed again. -/
namespace ClientAccess.Batch

/-- What a batch calls. A write tells whether it was accepted; what that depends on is up to the
backend. -/
structure Backend (σ : Type) where
  write : σ → String → String → Bool × σ
  undo : σ → String → σ

namespace Backend

variable {σ : Type} (backend : Backend σ)

/-- Writes pairs one by one; `written` are the keys written before them, which are removed in the
order of writing when a pair is rejected. -/
def writeFrom (written : List String) (s : σ) : List (String × String) → Bool × σ
  | [] => (true, s)
  | (key, value) :: rest =>
    let (accepted, s) := backend.write s key value
    if accepted then writeFrom (written ++ [key]) s rest
    else (false, written.foldl backend.undo s)

def writeAll (s : σ) (pairs : List (String × String)) : Bool × σ :=
  backend.writeFrom [] s pairs

end Backend

inductive Event where
  | write (key value : String)
  | rejected (key value : String)
  | undo (key : String)
  deriving DecidableEq, Repr

structure Record where
  events : List Event
  entries : Entries String

def recording (accepts : String → String → Bool) : Backend Record where
  write r key value :=
    if accepts key value then (true, ⟨r.events ++ [.write key value], r.entries.insert key value⟩)
    else (false, ⟨r.events ++ [.rejected key value], r.entries⟩)
  undo r key := ⟨r.events ++ [.undo key], r.entries.erase key⟩

structure Result extends Record where
  landed : Bool

def write (accepts : String → String → Bool) (entries : Entries String)
    (pairs : List (String × String)) : Result :=
  let (landed, record) := (recording accepts).writeAll ⟨[], entries⟩ pairs
  { record with landed }

end ClientAccess.Batch
