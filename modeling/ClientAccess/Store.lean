import ClientAccess.Disk
import ClientAccess.Json.Reader
import ClientAccess.Json.Writer
import ClientAccess.Text.Blank
/-! Stores of texts by key. All kinds hold one map in memory. The file kind also writes the map to
its file after each change; a write that fails leaves the map as it is. The single kind has no
batches and carries a change out key by key. -/
namespace ClientAccess

inductive Change where
  | set (key value : String)
  | remove (key : String)
  | setAll (pairs : List (String × String))
  | removeAll (keys : List String)
  deriving DecidableEq, Repr

inductive KeyStep where
  | set (key value : String)
  | remove (key : String)
  deriving DecidableEq, Repr

def Change.keySteps : Change → List KeyStep
  | set key value => [.set key value]
  | remove key => [.remove key]
  | setAll pairs => pairs.map fun p => .set p.1 p.2
  | removeAll keys => keys.map .remove

namespace Entries

def apply (e : Entries String) : Change → Entries String
  | .set key value => e.insert key value
  | .remove key => e.erase key
  | .setAll pairs => e.insertAll pairs
  | .removeAll keys => e.eraseAll keys

def applyStep (e : Entries String) : KeyStep → Entries String
  | .set key value => e.insert key value
  | .remove key => e.erase key

def toFileText (e : Entries String) : String :=
  (Json.obj (e.items.map fun p => (p.1, .str p.2))).pretty

def textMembers? : List (String × Json) → Option (List (String × String))
  | [] => some []
  | (k, .str v) :: rest => (textMembers? rest).map ((k, v) :: ·)
  | _ :: _ => none

def ofFileText? (text : String) : Option (Entries String) :=
  match Json.readAsWritten Json.depthLimit text with
  | .ok (.obj members) => (textMembers? members).map ofList
  | _ => none

/-- The map of a file's bytes: empty unless they are the text of an object of texts. -/
def ofFileBytes (bytes : ByteArray) : Entries String :=
  ((String.fromUTF8? bytes).bind ofFileText?).getD empty

end Entries

inductive Store.Kind where
  | memory
  | single
  | file (path : String)
  deriving DecidableEq, Repr

structure Store where
  kind : Store.Kind
  entries : Entries String
  disk : Disk

namespace Store

def inMemory (entries : Entries String) : Store := ⟨.memory, entries, .empty⟩

def load (disk : Disk) (path : String) : Entries String :=
  ((disk.read? path).map Entries.ofFileBytes).getD .empty

def openFile (disk : Disk) (path : String) : Store := ⟨.file path, load disk path, disk⟩

def get? (s : Store) (key : String) : Option String := s.entries.get? key

def temporary (path : String) : String := path ++ ".tmp"

/-- How a map gets to a file: beside it first, then over it. -/
def persistence (path : String) (entries : Entries String) : List Disk.Operation :=
  [.makeFolders (Disk.parent path),
   .write (temporary path) entries.toFileText.toUTF8,
   .rename (temporary path) path]

def operations (kind : Kind) (entries : Entries String) : List Disk.Operation :=
  match kind with
  | .file path => persistence path entries
  | _ => []

def apply (s : Store) (change : Change) : Store :=
  let entries :=
    match s.kind with
    | .single => change.keySteps.foldl Entries.applyStep s.entries
    | _ => s.entries.apply change
  { s with entries, disk := (s.disk.performAll (operations s.kind entries)).1 }

def reopen (s : Store) : Store :=
  match s.kind with
  | .file path => openFile s.disk path
  | _ => s

end Store

end ClientAccess
