/-
The generated module: header, helper declarations and one block for each definition, with the records that are logged on
the way. The first definition without a declaration decides: its fault is the result, and the log ends with its kind.
-/
import SchemaTypings.Text.Template
import SchemaTypings.Typings.Declaration

namespace SchemaTypings.Typings

open SchemaTypings.Schema
open SchemaTypings.Text (TextLike)
open SchemaTypings.Text.TextLike (ofText)

/-- what is logged while declarations are made -/
inductive Record where
  | emittingAll (count : Nat)
  | emitting (kind : Kind)
  | reading (path : String)
  | generated (count : Nat)
  | wrote (path : String)
  deriving DecidableEq, Repr

namespace Record

/-- level of a record: progress within a module is for debugging, the rest informs -/
def level : Record → String
  | .emittingAll _ => "DEBUG"
  | .emitting _ => "DEBUG"
  | _ => "INFO"

/-- name of the log a record belongs to -/
def source : Record → String
  | .emittingAll _ => "gql_resolver_types.emitter"
  | .emitting _ => "gql_resolver_types.emitter"
  | _ => "gql_resolver_types.api"

def message : Record → String
  | .emittingAll n => "Emitting " ++ toString n ++ " definitions"
  | .emitting k => "Emitting " ++ k.text
  | .reading p => "Reading schema from " ++ p
  | .generated n => "Generated declarations for " ++ toString n ++ " definitions"
  | .wrote p => "Wrote " ++ p

def line (r : Record) : String := r.level ++ " " ++ r.source ++ " - " ++ r.message

def isDebug : Record → Bool
  | .emittingAll _ => true
  | .emitting _ => true
  | _ => false

end Record

/-- helper declarations, with a field for the context type -/
def helperTemplate : String :=
  "export type ArrayOrValue<TValue> = Array<TValue> | TValue;\n" ++
  "export type Resolve<TResult, TArgs = \x7b\x7b\x7d\x7d> = " ++
  "(args?: TArgs, context?: \x7bcontext\x7d) => TResult | Promise<TResult>;\n" ++
  "export type Field<TResult> = TResult | Promise<TResult> | Resolve<TResult>;\n" ++
  "export type Maybe<TValue> = TValue | undefined;\n"

def helpersBefore : String :=
  "export type ArrayOrValue<TValue> = Array<TValue> | TValue;\n" ++
  "export type Resolve<TResult, TArgs = \x7b\x7d> = (args?: TArgs, context?: "

def helpersAfter : String :=
  ") => TResult | Promise<TResult>;\n" ++
  "export type Field<TResult> = TResult | Promise<TResult> | Resolve<TResult>;\n" ++
  "export type Maybe<TValue> = TValue | undefined;\n"

/-- the template has one field, between texts whose braces are doubled -/
theorem toList_helperTemplate :
    helperTemplate.toList = Text.Template.escape helpersBefore.toList ++
      '\x7b' :: ("context".toList ++ '\x7d' :: Text.Template.escape helpersAfter.toList) := by
  unfold helperTemplate helpersBefore helpersAfter
  -- a text that is written out is taken as its characters: decoding its bytes is what makes evaluation slow
  simp only [String.toList_append]
  repeat rw [String.toList_ofList]
  decide +kernel

/-- **The template can be filled in with any context type**, which then stands between two fixed texts. -/
theorem fill_helperTemplate (context : String) :
    Text.Template.fill [("context", context)] helperTemplate = .ok (helpersBefore ++ context ++ helpersAfter) := by
  have hcontext : Entries.get? [("context", context)] (String.ofList "context".toList) = some context := by
    simp
  have hopen : '\x7b' ∉ "context".toList := by decide
  have hclose : '\x7d' ∉ "context".toList := by decide
  rw [Text.Template.fill, toList_helperTemplate, Text.Template.fillFrom_around hopen hclose hcontext, Except.map]
  simp only [String.ofList_append, String.ofList_toList, String.append_assoc]

/-- helper declarations for a context type, which goes in as it is -/
def helperTypes (context : String) : String :=
  Text.Template.filled [("context", context)] helperTemplate (Text.Template.isSome_of_fill (fill_helperTemplate context))

theorem helperTypes_eq (context : String) : helperTypes context = helpersBefore ++ context ++ helpersAfter :=
  Text.Template.filled_eq (fill_helperTemplate context)

variable {τ : Type} [TextLike τ]

/-- blocks of the definitions up to the first fault, and the records written on the way -/
def blocks (indent : τ) : List (Definition Slot) → Except Fault τ × List Record
  | [] => (.ok (ofText ""), [])
  | d :: ds =>
    match declare indent d with
    | .error f => (.error f, [.emitting d.kind])
    | .ok block =>
      let (rest, log) := blocks indent ds
      (rest.map (block ++ ofText "\n" ++ ·), .emitting d.kind :: log)

/-- the module of a list of definitions, and the records of the call -/
def moduleText (context : String) (header indent : τ) (ds : List (Definition Slot)) : Except Fault τ × List Record :=
  let (body, log) := blocks indent ds
  (body.map (header ++ ofText "\n" ++ ofText (helperTypes context) ++ ·), .emittingAll ds.length :: log)

def moduleOf (context : String) (header indent : τ) (ds : List (Definition String)) : Except Fault τ × List Record :=
  moduleText context header indent (ds.map (·.map .named))

/-! ## Equations -/

theorem blocks_cons (indent : τ) (d : Definition Slot) (ds : List (Definition Slot)) :
    blocks indent (d :: ds) =
      match declare indent d with
      | .error f => (.error f, [.emitting d.kind])
      | .ok block =>
        ((blocks indent ds).1.map (block ++ ofText "\n" ++ ·), .emitting d.kind :: (blocks indent ds).2) := by
  rw [blocks]

theorem moduleText_eq (context : String) (header indent : τ) (ds : List (Definition Slot)) :
    moduleText context header indent ds =
      ((blocks indent ds).1.map (header ++ ofText "\n" ++ ofText (helperTypes context) ++ ·),
        .emittingAll ds.length :: (blocks indent ds).2) := rfl

end SchemaTypings.Typings
