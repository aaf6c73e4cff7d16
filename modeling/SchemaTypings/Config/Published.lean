/-
The published description of config files, a JSON Schema document.
-/
import SchemaTypings.Config.Settings

namespace SchemaTypings.Config

namespace Published

/-- description of a field: what it must be, its default and its title -/
def field (title fallback : String) (least : Option Nat) : Json :=
  .object <|
    [("default", .string fallback)] ++ (least.toList.map fun n => ("minLength", .int n))
      ++ [("title", .string title), ("type", .string "string")]

/-- the description of config files -/
def document : Json :=
  .object [
    ("additionalProperties", .bool false),
    ("description", .string "Options threaded through a single generation run."),
    ("properties", .object [
      (Settings.contextKey, field "Context" Settings.defaultContext (some 1)),
      (Settings.headerKey, field "Header" Settings.defaultHeader none),
      (Settings.indentKey, field "Indent" Settings.defaultIndent none)]),
    ("title", .string "GeneratorConfig"),
    ("type", .string "object")]

/-- the description as text, indented or on one line -/
def text (pretty : Bool) : List Char := document.write (if pretty then some 2 else none)

end Published

end SchemaTypings.Config
