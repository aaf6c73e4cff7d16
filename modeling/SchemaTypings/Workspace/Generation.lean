/-
Work on files: settings are loaded and saved, schemas loaded, modules generated. All texts are UTF-8; when a text is read, each
line end becomes LF. What is generated is written last, so that a fault before leaves all files as they were; a module that is
no text leaves its file empty.
-/
import SchemaTypings.Config.File
import SchemaTypings.Sdl.Document
import SchemaTypings.Text.Excerpt
import SchemaTypings.Text.Utf8
import SchemaTypings.Typings.Module
import SchemaTypings.Workspace.Store

namespace SchemaTypings.Workspace

open SchemaTypings.Config (Settings Format Problem)
open SchemaTypings.Schema (Definition)
open SchemaTypings.Text (Str TextLike)
open SchemaTypings.Typings (Record)

inductive Fault where
  | file (fault : FileFault)
  | schemaMissing (path : String)
  | undecodable (fault : Option Text.DecodingFault)
  | unencodable (fault : Text.EncodingFault)
  | source (text : List Char) (fault : Sdl.SourceFault)
  | declaration (fault : Typings.Fault)
  | config (path : String) (fault : Config.FileFault)
  /-- a fault of options that are put over settings, of which the context is given -/
  | settings (context : Str) (fault : Config.OverrideFault)

def configMessage (path : String) : Config.FileFault → String
  | .notMapping t => "Invalid config " ++ path ++ ": expected a mapping, got " ++ t
  | .keyNotText => "keywords must be strings"
  | .breakdown b => b.message
  | _ => "Invalid config " ++ path

/-- name of the text that a position is in -/
def sourceName : String := "GraphQL request"

/-- a fault of a schema text with the excerpt around its place -/
def sourceReport (text : List Char) (f : Sdl.SourceFault) : String :=
  f.message ++ "\n\n" ++ sourceName ++ ":" ++ toString f.position.line ++ ":" ++ toString f.position.column ++ "\n"
    ++ "\n".intercalate ((Text.Excerpt.around text f.position).map String.ofList)

/-- format of a config file, by the suffix of its path -/
def formatOf (path : String) : Format :=
  let suffix := (Path.ofText path).suffix
  if suffix = ".yaml" ∨ suffix = ".yml" then .yaml else .json

/-- the text of bytes, with LF for each line end -/
def decode (bytes : ByteArray) : Except Fault (List Char) :=
  match String.fromUTF8? bytes with
  | some s => .ok (Text.Line.unify s.toList)
  | none => .error (.undecodable (Text.decodingFault? bytes.toList))

def encode (text : String) : ByteArray := text.toUTF8

variable {τ : Type} [TextLike τ]

/-- what a file gets of a text or a string: its bytes, or nothing if it has none -/
def contentOf (text : τ) : ByteArray × Except Fault Unit :=
  match Text.encode? (TextLike.toStr text) with
  | .ok bytes => (bytes, .ok ())
  | .error f => (.empty, .error (.unencodable f))

def moduleOfText (s : Settings τ) (text : List Char) : Except Fault τ :=
  match Sdl.parse text with
  | .error f => .error (.source text f)
  | .ok ds => (Typings.moduleOf s.context s.header s.indent ds).1.mapError .declaration

def settingsOf [Yaml.Stack] (path : String) (text : List Char) : Except Fault (Settings Str) :=
  (Settings.ofText (formatOf path) text).mapError (.config path)

variable {m : Type → Type} [Monad m] [FileStore m]

def readText (path : String) : m (Except Fault (List Char)) := do
  match ← FileStore.read path with
  | .error f => return .error (.file f)
  | .ok bytes => return decode bytes

def loadSettings [Yaml.Stack] (pathText : String) : m (Except Fault (Settings Str)) := do
  let path := showPath pathText
  match ← readText path with
  | .error f => return .error f
  | .ok text => return settingsOf path text

def saveSettings (s : Settings τ) (pathText : String) : m (Except Fault Unit) := do
  let path := showPath pathText
  return (← FileStore.write path (encode (String.ofList (s.toText (formatOf path))))).mapError .file

/-- the text of a schema file and its definitions, and the records written on the way -/
def loadSchema (pathText : String) : m (Except Fault (List (Definition String)) × List Record) := do
  let path := showPath pathText
  match ← FileStore.kind? path with
  | none => return (.error (.schemaMissing path), [])
  | some _ =>
    match ← readText path with
    | .error f => return (.error f, [.reading path])
    | .ok text => return ((Sdl.parse text).mapError (.source text), [.reading path])

/-- writes a text or a string into a file, making the directories it is in -/
def writeText (pathText : String) (text : τ) : m (Except Fault Unit) := do
  let path := showPath pathText
  match ← makeParents path with
  | .error f => return .error (.file f)
  | .ok () =>
    let (content, result) := contentOf text
    match ← FileStore.write path content with
    | .error f => return .error (.file f)
    | .ok () => return result

/-- generates the module of a schema file, into a file if a path is given, and logs the way -/
def generate (schema : String) (out : Option String) (s : Settings τ) : m (Except Fault τ × List Record) := do
  match ← loadSchema schema with
  | (.error f, log) => return (.error f, log)
  | (.ok ds, log) =>
    match Typings.moduleOf s.context s.header s.indent ds with
    | (.error f, more) => return (.error (.declaration f), log ++ more)
    | (.ok text, more) =>
      let log := log ++ more ++ [.generated ds.length]
      match out with
      | none => return (.ok text, log)
      | some out =>
        match ← writeText out text with
        | .error f => return (.error f, log)
        | .ok () => return (.ok text, log ++ [.wrote (showPath out)])

end SchemaTypings.Workspace
