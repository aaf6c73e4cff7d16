/-
When a document satisfies a schema.

A schema is a document too: `true`, which all documents satisfy, `false`, which none does, or an object whose keys say what
is asked for. Of these `type`, `minLength`, `properties` and `additionalProperties` are read, each as JSON Schema has it;
the others describe. Lengths are counted in code points, and half of a pair of surrogates is one. Numbers are of one type:
`integer`, which some of them are, is not told apart.

A document does not keep what is in an object with a key that is no text. Such an object satisfies a schema if it does
so whatever is in it.
-/
import SchemaTypings.Entries
import SchemaTypings.Json.Document

namespace SchemaTypings.Json

/-- what a schema calls the type of a document -/
def typeName : Json → String
  | .null => "null"
  | .bool _ => "boolean"
  | .int _ => "number"
  | .real _ => "number"
  | .string _ => "string"
  | .unpaired _ => "string"
  | .array _ => "array"
  | .object _ => "object"
  | .unkeyed => "object"

/-- how many code points a string has -/
def length? : Json → Option Nat
  | .string s => some s.length
  | .unpaired u => some u.pieces.length
  | _ => none

/-- whether a document may have a value at a key -/
def HasAt (key : String) (j v : Json) : Prop :=
  match j with
  | .object es => Entries.get? es key = some v
  | .unkeyed => True
  | _ => False

/-- whether a document may have a value at a key that is not among some others -/
def HasBeside (known : List String) (j v : Json) : Prop :=
  match j with
  | .object es => ∃ key, key ∉ known ∧ (key, v) ∈ es
  | .unkeyed => True
  | _ => False

/-- keys that a schema has a property for -/
def propertyKeys (keywords : Entries Json) : List String :=
  match keywords.get? "properties" with
  | some (.object ps) => ps.map Prod.fst
  | _ => []

mutual

/-- whether a document satisfies a schema -/
def Satisfies : Json → Json → Prop
  | .bool b, _ => b = true
  | .object keywords, j => SatisfiesKeywords (propertyKeys keywords) keywords j
  | _, _ => False

/-- whether a document is as keywords ask, next to properties for the known keys -/
def SatisfiesKeywords (known : List String) : List (String × Json) → Json → Prop
  | [], _ => True
  | (keyword, a) :: keywords, j =>
    (keyword = "type" → a = .string j.typeName) ∧
    (keyword = "minLength" → ∀ n, j.length? = some n → ∃ m : Nat, a = .int m ∧ m ≤ n) ∧
    (keyword = "properties" → SatisfiesProperties a j) ∧
    (keyword = "additionalProperties" → ∀ v, HasBeside known j v → Satisfies a v) ∧
    SatisfiesKeywords known keywords j

/-- whether the values at keys satisfy the schemas of the keys -/
def SatisfiesProperties : Json → Json → Prop
  | .object ps, j => SatisfiesEntries ps j
  | _, _ => True

/-- whether the values at keys satisfy the schemas of the keys, one after the other -/
def SatisfiesEntries : List (String × Json) → Json → Prop
  | [], _ => True
  | (key, schema) :: ps, j => (∀ v, HasAt key j v → Satisfies schema v) ∧ SatisfiesEntries ps j

end

end SchemaTypings.Json
