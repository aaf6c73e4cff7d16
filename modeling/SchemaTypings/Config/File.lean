/-
Settings as the text of a config file, in YAML or in JSON.
-/
import SchemaTypings.Config.Settings
import SchemaTypings.Config.Yaml
import SchemaTypings.Json.Reader
import SchemaTypings.Yaml.Writer

namespace SchemaTypings.Config

open SchemaTypings.Text

inductive Format where
  | yaml
  | json
  deriving DecidableEq, Repr

/-- why a text is no settings -/
inductive FileFault where
  | illFormed
  | breakdown (b : Yaml.Breakdown)
  | notMapping (typeName : String)
  | keyNotText
  | keyNotUnicode
  | invalid (problems : List Problem)
  deriving DecidableEq, Repr

def FileFault.ofYaml : Yaml.Fault → FileFault
  | .illFormed => .illFormed
  | .breakdown b => .breakdown b

def textKeys (es : List (Key × Value)) : Except FileFault (Entries Value) :=
  if es.any (·.1 = .other) then .error .keyNotText
  else
    es.mapM fun (k, v) =>
      match k with
      | .text k => .ok (k, v)
      | _ => .error .keyNotUnicode

namespace Settings

/-- what a file with a text holds -/
def valueOf [Yaml.Stack] (format : Format) (text : List Char) : Except FileFault FileValue :=
  match format with
  | .yaml => (FileValue.ofYaml text).mapError .ofYaml
  | .json =>
    match Json.read? text with
    | some j => .ok (.ofJson j)
    | none => .error .illFormed

/-- the settings of what a file holds; no value is the same as an empty mapping -/
def ofValue : FileValue → Except FileFault (Settings Str)
  | .mapping es => (textKeys es).bind fun es => (ofEntries es).mapError .invalid
  | .value v => if v.isNull then .ok default.strings else .error (.notMapping v.typeName)

def ofText [Yaml.Stack] (format : Format) (text : List Char) : Except FileFault (Settings Str) :=
  (valueOf format text).bind ofValue

variable {τ : Type} [TextLike τ]

def toJson (s : Settings τ) : Json :=
  .object [(contextKey, .string s.context), (headerKey, .ofStr (TextLike.toStr s.header)),
    (indentKey, .ofStr (TextLike.toStr s.indent))]

/-- indent of JSON config files -/
def jsonStep : Nat := 2

def toText (format : Format) (s : Settings τ) : List Char :=
  match format with
  | .yaml =>
    Yaml.writeEntry contextKey (.text s.context) ++ Yaml.writeEntry headerKey (TextLike.toStr s.header)
      ++ Yaml.writeEntry indentKey (TextLike.toStr s.indent)
  | .json => (s.toJson).write (some jsonStep)

end Settings

end SchemaTypings.Config
