/-
Files and directories, as far as the program uses them, and the faults of their operations.

`FileStore` is what a monad has to offer; the operations on top of it are written once, for the directory tree of
`Workspace.Tree` and for a real directory.
-/
import SchemaTypings.Outcome
import SchemaTypings.Text.Quotation
import SchemaTypings.Workspace.Path

namespace SchemaTypings.Workspace

inductive Obstacle where
  | notFound
  | exists
  | notDirectory
  | isDirectory
  | nulByte
  deriving DecidableEq, Repr

/-- an obstacle and the path that was asked for -/
structure FileFault where
  obstacle : Obstacle
  path : String
  deriving DecidableEq, Repr

/-- number and text of an obstacle; the last one has no number -/
def Obstacle.text : Obstacle → String
  | .notFound => "[Errno 2] No such file or directory"
  | .exists => "[Errno 17] File exists"
  | .notDirectory => "[Errno 20] Not a directory"
  | .isDirectory => "[Errno 21] Is a directory"
  | .nulByte => "embedded null byte"

/-- text of a fault; a path with a NUL is not shown -/
def FileFault.message (f : FileFault) : String :=
  if f.obstacle = .nulByte then f.obstacle.text else f.obstacle.text ++ ": " ++ Text.quoteText f.path

inductive EntryKind where
  | file
  | directory
  deriving DecidableEq, Repr

/-- operations on files, by the text of a path -/
class FileStore (m : Type → Type) where
  /-- what stands at a path, none if nothing does or the path leads through a file -/
  kind? : String → m (Option EntryKind)
  /-- the bytes of a file -/
  read : String → m (Except FileFault ByteArray)
  /-- makes a file, or gives a file that is there already other bytes -/
  write : String → ByteArray → m (Except FileFault Unit)
  /-- makes a directory in one that is there already -/
  makeDirectory : String → m (Except FileFault Unit)

variable {m : Type → Type} [Monad m] [FileStore m]

/-- the outcome of making a directory, where one that is there already is as good -/
def toleratingExisting (path : String) (r : Except FileFault Unit) : m (Except FileFault Unit) := do
  match r with
  | .ok () => return .ok ()
  | .error f =>
    if f.obstacle = .notFound then return .error f
    else if (← FileStore.kind? path) = some .directory then return .ok ()
    else return .error f

/-- makes a directory and those around it that are missing; the names are given last first -/
def makeDirectories (root : Root) : List String → m (Except FileFault Unit)
  | [] => do
    let path := (Path.mk root []).text
    toleratingExisting path (← FileStore.makeDirectory path)
  | n :: around => do
    let path := (Path.mk root (n :: around).reverse).text
    match ← FileStore.makeDirectory path with
    | .error ⟨.notFound, _⟩ =>
      match ← makeDirectories root around with
      | .error f => return .error f
      | .ok () => toleratingExisting path (← FileStore.makeDirectory path)
    | r => toleratingExisting path r

/-- makes the directory of a path -/
def makeParents (path : String) : m (Except FileFault Unit) :=
  let parent := (Path.ofText path).parent
  makeDirectories parent.root parent.names.reverse

end SchemaTypings.Workspace
