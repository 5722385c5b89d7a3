import ClientAccess.CommandLine.Run
import ClientAccess.Transmission
/-! The program: words and variables in, lines and an exit code out. The session file is read
before the command runs and written after it; no request reaches a peer. -/
namespace ClientAccess.Program

def variableNames : List String :=
  [Settings.baseUrlVariable, Settings.productionVariable, Settings.timeoutVariable,
    Settings.sessionFileVariable, CommandLine.passwordVariable]

def environment : IO Environment := do
  let values ← variableNames.mapM fun v => return (v, ← IO.getEnv v)
  return fun v => (values.lookup v).join

def openStore (path : String) : IO Store := do
  let entries ← try
    pure (Entries.ofFileBytes (← IO.FS.readBinFile path))
  catch _ => pure Entries.empty
  return ⟨.file path, entries, .empty⟩

def perform : Disk.Operation → IO Unit
  | .makeFolders path => if path.isEmpty then pure () else IO.FS.createDirAll path
  | .write path bytes => IO.FS.writeBinFile path bytes
  | .rename source target => IO.FS.rename source target

def hasChanged (o : CommandLine.Outcome) : Bool :=
  o.state.trace.any fun
    | .changed _ => true
    | _ => false

def persist (store : Store) : IO Unit := do
  try
    (Store.operations store.kind store.entries).forM perform
  catch _ => pure ()

def report (o : CommandLine.Outcome) : IO UInt32 := do
  IO.print o.printed
  IO.eprint (CommandLine.errorLines o.reports)
  return o.exitCode.toUInt32

def usage : String :=
  "Usage: [--base-url URL] [--session-file FILE] " ++
    "login | register | logout | whoami | api | navigate"

def run (env : Environment) (i : CommandLine.Invocation) : IO UInt32 := do
  match CommandLine.settingsOf env i with
  | .error fault => report ⟨.error (.settings fault), .ofStore (.inMemory .empty)⟩
  | .ok s =>
    let store ← openStore s.sessionFile
    let o := CommandLine.runCommand (CommandLine.application s) Transmission.unanswered
      (.ofStore store) i.command
    if hasChanged o then persist o.state.store
    report o

end ClientAccess.Program

def main (words : List String) : IO UInt32 := do
  let env ← ClientAccess.Program.environment
  match ClientAccess.CommandLine.read env words with
  | .ok i => ClientAccess.Program.run env i
  | .error u =>
    IO.eprintln ClientAccess.Program.usage
    return u.exitCode.toUInt32
