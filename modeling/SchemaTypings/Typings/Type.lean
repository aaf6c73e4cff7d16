/-
TypeScript text of a type reference. `render` wraps what may be null in `Maybe<...>`, `renderBare` leaves that layer out.
A list is `ArrayOrValue<...>` of its rendered items; the five built-in scalars have TypeScript names.
-/
import SchemaTypings.Schema.Definition

namespace SchemaTypings.Typings

open SchemaTypings.Schema

/-- TypeScript name of a type: the built-in scalars have their own, others keep theirs -/
def scalarName (n : String) : String :=
  match n with
  | "ID" => "string"
  | "String" => "string"
  | "Float" => "number"
  | "Int" => "number"
  | "Boolean" => "boolean"
  | _ => n

mutual

/-- the type without the layer that says whether it may be null -/
def renderBare : TypeRef String → String
  | .leaf n => scalarName n
  | .list t => "ArrayOrValue<" ++ render t ++ ">"
  | .nonNull t => renderBare t

/-- the type, wrapped in `Maybe<...>` if it may be null -/
def render : TypeRef String → String
  | .leaf n => "Maybe<" ++ scalarName n ++ ">"
  | .list t => "Maybe<" ++ ("ArrayOrValue<" ++ render t ++ ">") ++ ">"
  | .nonNull t => renderBare t

end

/-- only a type that is not marked as never null gets the wrapper -/
theorem render_eq (t : TypeRef String) :
    render t = if t.isNonNull then renderBare t else "Maybe<" ++ renderBare t ++ ">" := by
  cases t <;> simp [render, renderBare, TypeRef.isNonNull]

/-- the mark of a member that may be left out -/
def optionalMark {α : Type} (t : TypeRef α) : String := if t.isNonNull then "" else "?"

end SchemaTypings.Typings
