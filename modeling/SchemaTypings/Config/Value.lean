/-
Values that a config file can hold, whichever format it is written in, as far as settings tell them apart.
-/
import SchemaTypings.Json.Document

namespace SchemaTypings.Config

/-- keys of a mapping: texts, strings that are no texts, or something that is no string. A mapping with a key that is no text is
refused as a whole, whichever key that is -/
inductive Key where
  | text (s : String)
  | unpaired
  | other
  deriving DecidableEq, Repr

/-- values that are neither strings nor bytes -/
inductive NonText where
  | null
  | bool
  | int
  | real
  | date
  | moment
  | list
  | mapping
  | set
  deriving DecidableEq, Repr

/-- values; `unpaired` is a string that is no text -/
inductive Value where
  | text (s : String)
  | unpaired (u : Text.Unpaired)
  | bytes (data : List UInt8)
  | other (sort : NonText)
  deriving DecidableEq, Repr

/-- what a file holds: the entries of a mapping, or another value -/
inductive FileValue where
  | mapping (entries : List (Key × Value))
  | value (v : Value)
  deriving DecidableEq, Repr

def NonText.typeName : NonText → String
  | .null => "NoneType"
  | .bool => "bool"
  | .int => "int"
  | .real => "float"
  | .date => "date"
  | .moment => "datetime"
  | .list => "list"
  | .mapping => "dict"
  | .set => "set"

namespace Value

/-- what a message calls the type of a value -/
def typeName : Value → String
  | .text _ => "str"
  | .unpaired _ => "str"
  | .bytes _ => "bytes"
  | .other sort => sort.typeName

def ofStr : Text.Str → Value
  | .text s => .text s
  | .unpaired u => .unpaired u

def ofJson : Json → Value
  | .null => .other .null
  | .bool _ => .other .bool
  | .int _ => .other .int
  | .real _ => .other .real
  | .string s => .text s
  | .unpaired u => .unpaired u
  | .array _ => .other .list
  | .object _ => .other .mapping
  | .unkeyed => .other .mapping

/-- whether there is no value -/
def isNull (v : Value) : Bool := v = .other .null

/-- the key that a value is, if it can be one: no collection can -/
def key? : Value → Option Key
  | .text s => some (.text s)
  | .unpaired _ => some .unpaired
  | .bytes _ => some .other
  | .other .list => none
  | .other .mapping => none
  | .other .set => none
  | .other _ => some .other

end Value

def FileValue.ofJson : Json → FileValue
  | .object es => .mapping (es.map fun (k, j) => (.text k, Value.ofJson j))
  | .unkeyed => .mapping [(.unpaired, .other .null)]
  | j => .value (Value.ofJson j)

end SchemaTypings.Config
