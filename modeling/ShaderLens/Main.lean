import ShaderLens.Invocation.Run
import ShaderLens.Viewer.Session

/-!
# The program

Reads what the command line asks for, and prints what the library makes of it. The viewer takes
the names of keys from standard input, one on each line, and prints the screen after each.
-/

namespace ShaderLens.Main

/-- The system's number for reading a folder like a file. -/
def isDirectory : UInt32 := 21

/-- What a path leads to in the file system; nothing if a file stands where a folder has to. -/
def readEntry (path : Text) : IO (Option Entry) := do
  try
    return some (.file (← IO.FS.readBinFile (String.ofList path)))
  catch
    | .noFileOrDirectory .. => return none
    | .inappropriateType _ code _ => return if code = isDirectory then some .folder else none
    | error => return some (.unreadable (toString error).toList)

/-- What standard input holds. -/
def readStdin : IO (Except Text ByteArray) := do
  try
    return .ok (← (← IO.getStdin).readBinToEnd)
  catch error =>
    return .error (toString error).toList

/-- Reads the sources of a command. -/
def read (sources : List Source) : IO Surroundings := do
  let entries ← sources.filterMapM fun source => do
    match source with
    | .file path => return (← readEntry path).map ((path, ·))
    | .clipboard => return none
    | .stdin => return none
  let stdin ← if .stdin ∈ sources then readStdin else pure (.ok .empty)
  return {
    entry? := fun path => (entries.find? (·.1 = path)).map (·.2)
    stdin := stdin
    clipboard := .error "there is no clipboard".toList }

def surroundings (arguments : List Text) : IO Surroundings :=
  match Invocation.ofArguments arguments with
  | .ok invocation => read invocation.command.sources
  | .error _ => read []

/-- The number in an environment variable. -/
def setting (name : String) (fallback : Nat) : IO Nat := do
  return (((← IO.getEnv name).bind String.toNat?).getD fallback)

def display (session : Session) : IO Unit := do
  for row in session.screen .midnight do
    IO.println (String.ofList row.text)

partial def browse (session : Session) : IO Unit := do
  if session.isOver then return
  let line ← (← IO.getStdin).getLine
  if line.isEmpty then return
  match (Key.ofName? (line.toList.takeWhile (· ≠ '\n'))).bind fun key =>
      session.receive? (.press none key) with
  | some next =>
      display next
      browse next
  | none => browse session

def run (arguments : List Text) : IO UInt32 := do
  let around ← surroundings arguments
  match Session.open? around arguments with
  | .ok (some viewer) =>
      let session := ⟨viewer, ⟨← setting "COLUMNS" 80, ← setting "LINES" 24⟩⟩
      display session
      browse session
      return 0
  | _ =>
      let outcome := Outcome.run around arguments
      IO.print (String.ofList outcome.stdout)
      IO.eprint (String.ofList outcome.stderr)
      return outcome.exitCode

end ShaderLens.Main

def main (arguments : List String) : IO UInt32 :=
  ShaderLens.Main.run (arguments.map String.toList)
