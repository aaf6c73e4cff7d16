/-
Tags of nodes: those that are written, and those that plain scalars have by what they look like.
-/
import SchemaTypings.Yaml.Number
import SchemaTypings.Yaml.Timestamp

namespace SchemaTypings.Yaml

open SchemaTypings.Text

inductive Tag where
  | null
  | bool
  | int
  | real
  | timestamp
  | text
  | bytes
  | sequence
  | mapping
  | set
  | orderedMap
  | pairs
  | merge
  | defaultValue
  | unknown
  deriving DecidableEq, Repr

namespace Tag

/-- where the tags of the standard are -/
def standardBase : String := "tag:yaml.org,2002:"

def ofStandard : String → Tag
  | "null" => .null
  | "bool" => .bool
  | "int" => .int
  | "float" => .real
  | "timestamp" => .timestamp
  | "str" => .text
  | "binary" => .bytes
  | "seq" => .sequence
  | "map" => .mapping
  | "set" => .set
  | "omap" => .orderedMap
  | "pairs" => .pairs
  | "merge" => .merge
  | "value" => .defaultValue
  | _ => .unknown

def ofText (s : String) : Tag :=
  if s.toList.take standardBase.length = standardBase.toList then
    ofStandard (String.ofList (s.toList.drop standardBase.length))
  else .unknown

/-- words for truth values -/
def boolWords : List String :=
  ["yes", "Yes", "YES", "no", "No", "NO", "true", "True", "TRUE", "false", "False", "FALSE", "on", "On", "ON", "off",
   "Off", "OFF"]

/-- words for no value -/
def nullWords : List String := ["~", "null", "Null", "NULL"]

/-- characters that stand for nothing when they are alone -/
def reservedWords : List String := ["!", "&", "*"]

/-- the tag of a plain scalar; a line end at its end does not count -/
def ofPlain (cs : List Char) : Tag :=
  if cs = [] then .null
  else
    let word := Line.withoutFinal cs
    if boolWords.any (·.toList = word) then .bool
    else if Number.isReal word then .real
    else if Number.isInteger word then .int
    else if word = ['<', '<'] then .merge
    else if nullWords.any (·.toList = word) then .null
    else if Timestamp.isTimestamp cs then .timestamp
    else if word = ['='] then .defaultValue
    else if reservedWords.any (·.toList = word) then .unknown
    else .text

end Tag

end SchemaTypings.Yaml
