/-
What definitions look like that a document can write, over a class `N` of names.

Types have one mark against null in a row, members fit their record, and enum values are none of the words that stand
for values of their own. A definition without declaration is of one of the kinds a document may have, and only
operations and schemas may be without a name. All of it is decidable if the class of names is.
-/
import SchemaTypings.Schema.Definition

namespace SchemaTypings.Schema

variable {α β : Type} {N M : String → Prop}

/-! ## Well-formed definitions -/

/-- number of lists around the leaf of a type -/
def TypeRef.lists : TypeRef α → Nat
  | .leaf _ => 0
  | .list t => t.lists + 1
  | .nonNull t => t.lists

/-- a type with names at its leaf and no mark against null on another -/
def TypeRef.WellFormed (N : String → Prop) : TypeRef String → Prop
  | .leaf n => N n
  | .list t => t.WellFormed N
  | .nonNull t => t.isNonNull = false ∧ t.WellFormed N

def Argument.WellFormed (N : String → Prop) (a : Argument String) : Prop := N a.name ∧ a.type.WellFormed N

/-- a member with names that fits the record: only an input object has input values -/
def Member.WellFormed (N : String → Prop) (k : RecordKind) : Member String → Prop
  | .field n t args => k ≠ .inputObject ∧ N n ∧ t.WellFormed N ∧ ∀ a ∈ args, a.WellFormed N
  | .input n t => k = .inputObject ∧ N n ∧ t.WellFormed N

/-- words that are no enum values -/
def reservedValues : List String := ["true", "false", "null"]

/-- kinds without declaration that a document may define -/
def definableKinds : List OtherKind :=
  [.operationDefinition, .fragmentDefinition, .schemaDefinition, .scalarTypeDefinition, .unionTypeDefinition,
   .directiveDefinition, .schemaExtension, .scalarTypeExtension, .objectTypeExtension, .interfaceTypeExtension,
   .unionTypeExtension, .enumTypeExtension, .inputObjectTypeExtension, .directiveExtension]

/-- kinds that are never named -/
def namelessKinds : List OtherKind := [.schemaDefinition, .schemaExtension]

/-- whether a definition of a kind without declaration may have that name -/
def OtherKind.Named (N : String → Prop) (k : OtherKind) : Option String → Prop
  | none => k = .operationDefinition ∨ k ∈ namelessKinds
  | some n => k ∉ namelessKinds ∧ N n

/-- a definition that a document can write -/
def Definition.WellFormed (N : String → Prop) : Definition String → Prop
  | .record k n ms => N n ∧ ∀ m ∈ ms, m.WellFormed N k
  | .enum n vs => N n ∧ ∀ v ∈ vs, N v ∧ v ∉ reservedValues
  | .other k n _ => k ∈ definableKinds ∧ k.Named N n

def Definition.isDeclared : Definition α → Bool
  | .other _ _ _ => false
  | _ => true

/-! ## Decidability -/

instance TypeRef.decidableWellFormed [DecidablePred N] : (t : TypeRef String) → Decidable (t.WellFormed N)
  | .leaf n => inferInstanceAs (Decidable (N n))
  | .list t => decidableWellFormed t
  | .nonNull t =>
    have := decidableWellFormed t
    inferInstanceAs (Decidable (t.isNonNull = false ∧ t.WellFormed N))

instance [DecidablePred N] (a : Argument String) : Decidable (a.WellFormed N) :=
  inferInstanceAs (Decidable (N a.name ∧ a.type.WellFormed N))

instance [DecidablePred N] (k : RecordKind) : (m : Member String) → Decidable (m.WellFormed N k)
  | .field n t args =>
    inferInstanceAs (Decidable (k ≠ .inputObject ∧ N n ∧ t.WellFormed N ∧ ∀ a ∈ args, a.WellFormed N))
  | .input n t => inferInstanceAs (Decidable (k = .inputObject ∧ N n ∧ t.WellFormed N))

instance [DecidablePred N] (k : OtherKind) : (n : Option String) → Decidable (k.Named N n)
  | none => inferInstanceAs (Decidable (k = .operationDefinition ∨ k ∈ namelessKinds))
  | some n => inferInstanceAs (Decidable (k ∉ namelessKinds ∧ N n))

instance [DecidablePred N] : (d : Definition String) → Decidable (d.WellFormed N)
  | .record k n ms => inferInstanceAs (Decidable (N n ∧ ∀ m ∈ ms, m.WellFormed N k))
  | .enum n vs => inferInstanceAs (Decidable (N n ∧ ∀ v ∈ vs, N v ∧ v ∉ reservedValues))
  | .other k n _ => inferInstanceAs (Decidable (k ∈ definableKinds ∧ k.Named N n))

end SchemaTypings.Schema
