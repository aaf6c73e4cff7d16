/-
The command line on the files of the machine. Texts for the next program go to standard output, texts for the screen to
standard error; the exit code tells how the run ended.
-/
import SchemaTypings.Command.Run

namespace SchemaTypings.Machine

open SchemaTypings.Workspace

/-- number of the error of a path that leads through a file -/
def throughFile : UInt32 := 20

/-- the obstacle that an error of the machine tells of, none if it is of another sort -/
def obstacle? : IO.Error → Option Obstacle
  | .noFileOrDirectory _ _ _ => some .notFound
  | .alreadyExists _ _ _ => some .exists
  | .inappropriateType _ code _ => some (if code = throughFile then .notDirectory else .isDirectory)
  | _ => none

/-- an action whose obstacles are faults of a path; all other errors stay as they are -/
def attempt {α : Type} (path : String) (action : IO α) : IO (Except FileFault α) := do
  if hasNul path then return .error ⟨.nulByte, path⟩
  match ← action.toBaseIO with
  | .ok a => return .ok a
  | .error e =>
    match obstacle? e with
    | some o => return .error ⟨o, path⟩
    | none => throw e

/-- what stands at a path, told by reading from it -/
def kindOfPath? (path : String) : IO (Option EntryKind) := do
  match ← attempt path (IO.FS.withFile path .read fun h => h.read 1) with
  | .ok _ => return some .file
  | .error ⟨.isDirectory, _⟩ => return some .directory
  | .error _ => return none

instance : FileStore IO where
  kind? := kindOfPath?
  read path := attempt path (IO.FS.readBinFile path)
  write path content := attempt path (IO.FS.writeBinFile path content)
  makeDirectory path := attempt path (IO.FS.createDir path)

/-- text for a command line that is refused -/
def usageText : String :=
  "Usage: version | generate SCHEMA [OUT] [--config FILE] [--context TEXT] [--header TEXT] [-v|--verbose]"
    ++ " | config-schema OUT [--pretty|--no-pretty]\n"

/-- shows how a run ended and gives the exit code -/
def conclude : Command.Ending → IO UInt32
  | .report r => do
    IO.print r.output
    IO.eprint r.screen
    return r.code.toUInt32
  | .usage => do
    IO.eprint usageText
    return 2
  | .fault f => do
    IO.eprint (Command.faultText f ++ "\n")
    return 1

end SchemaTypings.Machine

def main (args : List String) : IO UInt32 := do
  SchemaTypings.Machine.conclude (← SchemaTypings.Command.run args)
