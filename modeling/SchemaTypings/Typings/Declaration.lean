/-
TypeScript declarations of records and enums, and the faults that keep a definition from having one.

`declare` first checks all type positions of a record and then writes it, so that the first bad position is the fault that is
reported; `declare_map_named` says that a definition with names at its leaves has no such fault. The indent of members may be a
text or any string, and so may what is written with it.
-/
import SchemaTypings.Text.Str
import SchemaTypings.Typings.Type

namespace SchemaTypings.Typings

open SchemaTypings.Schema
open SchemaTypings.Text (TextLike)
open SchemaTypings.Text.TextLike (ofText)

/-- why there is no declaration -/
inductive Fault where
  | strayType (kind : Option Kind)
  | unsupported (kind : String) (name : Option String)
  deriving DecidableEq, Repr

/-- the text of a fault; an empty name is left out -/
def Fault.message : Fault → String
  | .strayType none => "Unexpected type node: NoneType"
  | .strayType (some k) => "Unexpected type node: " ++ k.label
  | .unsupported k n => "Unsupported definition kind: " ++ k ++
    match n with
    | none => ""
    | some n => if n = "" then "" else " (" ++ n ++ ")"

/-- an argument as a member of an object type -/
def argumentText (a : Argument String) : String :=
  a.name ++ optionalMark a.type ++ ": " ++ renderBare a.type

/-- type of a member: plain for an input value, a value or resolver for a field, a resolver if the field has arguments -/
def memberType : Member String → String
  | .input _ t => render t
  | .field _ t [] => "Field<" ++ render t ++ ">"
  | .field _ t args => "Resolve<" ++ render t ++ ", \x7b" ++ ", ".intercalate (args.map argumentText) ++ "\x7d>"

/-- mark of a member that may be left out -/
def memberMark : Member String → String
  | .field _ t _ => optionalMark t
  | .input _ t => optionalMark t

/-- a member without indent and line end -/
def memberText (m : Member String) : String :=
  m.name ++ memberMark m ++ ": " ++ memberType m ++ ";"

variable {τ : Type} [TextLike τ]

def memberLine (indent : τ) (m : Member String) : τ := indent ++ ofText (memberText m) ++ ofText "\n"

/-- a record as an interface, one line for each member -/
def recordText (indent : τ) (name : String) (members : List (Member String)) : τ :=
  ofText ("export interface " ++ name ++ " \x7b\n") ++ TextLike.join (members.map (memberLine indent)) ++ ofText "\x7d\n"

theorem memberLine_string (indent : String) (m : Member String) : memberLine indent m = indent ++ memberText m ++ "\n" :=
  rfl

theorem recordText_string (indent name : String) (members : List (Member String)) :
    recordText indent name members =
      "export interface " ++ name ++ " \x7b\n" ++ String.join (members.map (memberLine indent)) ++ "\x7d\n" := rfl

/-- values of an enum as a union of literals; an enum without values has no inhabitants -/
def unionText (values : List String) : String :=
  if values = [] then "never" else " | ".intercalate (values.map fun v => "'" ++ v ++ "'")

def enumText (name : String) (values : List String) : String :=
  "export type " ++ name ++ " = " ++ unionText values ++ ";\n"

/-- declaration of a definition with names at its leaves -/
def declareNamed (indent : τ) : Definition String → Except Fault τ
  | .record _ n ms => .ok (recordText indent n ms)
  | .enum n vs => .ok (ofText (enumText n vs))
  | .other k n _ => .error (.unsupported k.text n)

def declare (indent : τ) (d : Definition Slot) : Except Fault τ :=
  match d.check with
  | .ok d => declareNamed indent d
  | .error k => .error (.strayType k)

@[simp]
theorem declare_map_named (indent : τ) (d : Definition String) :
    declare indent (d.map .named) = declareNamed indent d := by
  simp [declare]

/-- a type position as text, with the layer that says whether it may be null or without it -/
def typeText (bare : Bool) (t : TypeRef Slot) : Except Fault String :=
  match t.traverse Slot.check with
  | .ok t => .ok (if bare then renderBare t else render t)
  | .error k => .error (.strayType k)

def memberTextOf (m : Member Slot) : Except Fault String :=
  match m.traverse Slot.check with
  | .ok m => .ok (memberText m)
  | .error k => .error (.strayType k)

end SchemaTypings.Typings
