/-
Running the command line on a store of files. Faults of texts and settings are reported and end with code 1, a command line
that is not clear or names files that are not there ends with code 2; faults of files are left to the caller, and so is a module
that is no text and cannot be piped.
-/
import SchemaTypings.Command.Arguments
import SchemaTypings.Command.Screen
import SchemaTypings.Config.Published
import SchemaTypings.Workspace.Generation

namespace SchemaTypings.Command

open SchemaTypings.Config (Settings Problem)
open SchemaTypings.Text (Str)
open SchemaTypings.Typings (Record)
open SchemaTypings.Workspace

def programVersion : String := "0.1.0"

/-- what a run leaves: the text for the next program and the text for the screen -/
structure Report where
  code : Nat
  output : String
  screen : String
  deriving DecidableEq, Repr

/-- how a run ends: with a report, with a command line that is refused, or with a fault that is left to the caller -/
inductive Ending where
  | report (report : Report)
  | usage
  | fault (fault : Fault)

/-- text of a problem of settings; the only value that options can get wrong is the context -/
def problemText (context : Str) (p : Problem) : String :=
  p.key ++ "\n  " ++ p.refusal.message ++ " [type=" ++ p.refusal.code ++ ", input_value="
    ++ Text.shorten (Text.quoteStr context) ++ ", input_type=str]\n"
    ++ "    For further information visit https://errors.pydantic.dev/2.14/v/" ++ p.refusal.code

def problemsText (context : Str) (ps : List Problem) : String :=
  toString ps.length ++ " validation error" ++ (if ps.length = 1 then "" else "s") ++ " for GeneratorConfig\n"
    ++ "\n".intercalate (ps.map (problemText context))

/-- text for the key that no override may have -/
def reservedKeyText : String :=
  "GeneratorConfig.with_overrides() got multiple values for argument '" ++ Settings.reservedKey ++ "'"

/-- text of a fault; the keys of options are texts -/
def faultText : Fault → String
  | .file f => f.message
  | .schemaMissing path => "Schema file not found: " ++ path
  | .undecodable f => (f.map (·.message)).getD ""
  | .unencodable f => f.message
  | .source text f => sourceReport text f
  | .declaration f => f.message
  | .config path f => configMessage path f
  | .settings context (.invalid ps) => problemsText context ps
  | .settings _ .reservedKey => reservedKeyText
  | .settings _ .keyNotUnicode => Config.Refusal.notUnicode.message

/-- whether a fault is reported instead of left to the caller: one of texts or settings is, but for keys that are no strings,
types that are none, texts that break down and a reserved key. One of files is not: that a path has a NUL is seen before -/
def isReported : Fault → Bool
  | .file _ => false
  | .schemaMissing _ => false
  | .undecodable _ => true
  | .unencodable _ => true
  | .source _ _ => true
  | .declaration (.unsupported _ _) => true
  | .declaration (.strayType _) => false
  | .config _ .keyNotText => false
  | .config _ (.breakdown _) => false
  | .config _ _ => true
  | .settings _ .reservedKey => false
  | .settings _ _ => true

/-- the column of levels on the screen -/
def levelCell : String := "INFO     "

/-- line of a record on the screen: the column of levels, then that of messages -/
def recordLine (r : Record) : String :=
  levelCell ++ Screen.cell levelCell.length (r.source ++ " - " ++ r.message) ++ "\n"

/-- what is shown of a log -/
def logText (verbose : Bool) (log : List Record) : String :=
  if verbose then String.join ((log.filter (!·.isDebug)).map recordLine) else ""

def labelled (label text : String) : String := label ++ Screen.message label.length text ++ "\n"

/-- settings of options over those of a config file -/
def overrides (context header : Option Str) : Entries Config.Value Str :=
  (context.toList.map fun s => (.text Settings.contextKey, .ofStr s))
    ++ (header.toList.map fun s => (.text Settings.headerKey, .ofStr s))

def failed (verbose : Bool) (log : List Record) (f : Fault) : Ending :=
  if isReported f then .report ⟨1, "", logText verbose log ++ labelled "Error: " (faultText f)⟩ else .fault f

variable {m : Type → Type} [Monad m] [FileStore m]

section
variable [Yaml.Stack]

def settingsFor (config : Option String) (context header : Option Str) : m (Except Fault (Settings Str)) := do
  let base ← match config with
    | none => pure (.ok Settings.default.strings)
    | some path => loadSettings path
  return base.bind fun s => (s.override (overrides context header)).mapError (.settings (context.getD (.text "")))

def runGenerate (schema : String) (out config : Option String) (context header : Option Str) (verbose : Bool) :
    m Ending := do
  match ← settingsFor config context header with
  | .error f => return failed verbose [] f
  | .ok s =>
    match ← generate schema out s with
    | (.error f, log) => return failed verbose log f
    | (.ok text, log) =>
      match out with
      | none =>
        match Screen.pipedStr text with
        | .text s => return .report ⟨0, s, logText verbose log⟩
        | .unpaired u => return .fault (.unencodable u.fault)
      | some out =>
        return .report ⟨0, "", logText verbose log ++ labelled "Declarations written: " (showPath out)⟩

end

/-- looks a path of the command line up, and ends the run if it has a NUL, or is to be that of a file and is not -/
def lookUp (path : String) (isFile : Bool) : m (Option Ending) := do
  if hasNul path then return some (.fault (.file ⟨.nulByte, path⟩))
  else if isFile && (← FileStore.kind? path) ≠ some .file then return some .usage
  else return none

/-- writes the description of config files -/
def runPublish (out : String) (pretty : Bool) : m Ending := do
  let path := showPath out
  match ← FileStore.write path (encode (String.ofList (Config.Published.text pretty))) with
  | .error f => return .fault (.file f)
  | .ok () => return .report ⟨0, "", labelled "Config schema written: " path⟩

/-- the paths of files that a run is to generate with, in the order in which they are looked up, and whether they have to be
there -/
def lookedUp (schema : String) (out config : Option String) : List (String × Bool) :=
  config.toList.map (·, true) ++ (schema, true) :: out.toList.map (·, false)

variable [Yaml.Stack]

def Invocation.run : Invocation → m Ending
  | .version => return .report ⟨0, programVersion ++ "\n", ""⟩
  | .generate schema out config context header verbose => do
    match ← (lookedUp schema out config).findSomeM? fun p => lookUp p.1 p.2 with
    | some ending => return ending
    | none => runGenerate schema out config context header verbose
  | .publish out pretty => runPublish out pretty

def run (args : List String) : m Ending :=
  match Invocation.ofArguments? args with
  | none => return .usage
  | some i => i.run

end SchemaTypings.Command
