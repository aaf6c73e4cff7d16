/-
Type references, members and definitions of a GraphQL schema.

All of them are given over the leaves `α` of type positions. A well-formed schema has names there (`Definition String`, what
the parser yields); a definition put together by hand may have nothing or a stray node in a type position
(`Definition Slot`). `Definition.check` turns the second into the first, or reports the first bad position: members in
order, the type of a member before those of its arguments, arguments left to right. `check_map_named` says that names
always pass.
-/
import SchemaTypings.Outcome
import SchemaTypings.Schema.Kind

namespace SchemaTypings.Schema

/-- reference to a type: a leaf, a list, or a type that is never null -/
inductive TypeRef (α : Type) where
  | leaf (a : α)
  | list (item : TypeRef α)
  | nonNull (type : TypeRef α)
  deriving DecidableEq, Repr

structure Argument (α : Type) where
  name : String
  type : TypeRef α
  deriving DecidableEq, Repr

/-- member of a record: an output field with arguments, or an input value -/
inductive Member (α : Type) where
  | field (name : String) (type : TypeRef α) (arguments : List (Argument α))
  | input (name : String) (type : TypeRef α)
  deriving DecidableEq, Repr

/-- definition of a document; `listed` are the names of the members or values that another definition lists -/
inductive Definition (α : Type) where
  | record (kind : RecordKind) (name : String) (members : List (Member α))
  | enum (name : String) (values : List String)
  | other (kind : OtherKind) (name : Option String) (listed : List String)
  deriving DecidableEq, Repr

/-- what stands at the leaf of a type position -/
inductive Slot where
  | named (name : String)
  | missing
  | stray (kind : Kind)
  deriving DecidableEq, Repr

variable {α β ε : Type}

namespace TypeRef

def leafOf : TypeRef α → α
  | .leaf a => a
  | .list t => leafOf t
  | .nonNull t => leafOf t

/-- the same wrappers around another leaf -/
def map (f : α → β) : TypeRef α → TypeRef β
  | .leaf a => .leaf (f a)
  | .list t => .list (map f t)
  | .nonNull t => .nonNull (map f t)

/-- the same wrappers around a leaf that may be refused -/
def traverse (f : α → Except ε β) : TypeRef α → Except ε (TypeRef β)
  | .leaf a => (f a).map .leaf
  | .list t => (traverse f t).map .list
  | .nonNull t => (traverse f t).map .nonNull

def isNonNull : TypeRef α → Bool
  | .nonNull _ => true
  | _ => false

end TypeRef

namespace Argument

def map (f : α → β) (a : Argument α) : Argument β := ⟨a.name, a.type.map f⟩

def traverse (f : α → Except ε β) (a : Argument α) : Except ε (Argument β) :=
  (a.type.traverse f).map fun t => ⟨a.name, t⟩

end Argument

namespace Member

def name : Member α → String
  | .field n _ _ => n
  | .input n _ => n

def map (f : α → β) : Member α → Member β
  | .field n t args => .field n (t.map f) (args.map (Argument.map f))
  | .input n t => .input n (t.map f)

/-- the member over leaves that may be refused: its own type first, then its arguments -/
def traverse (f : α → Except ε β) : Member α → Except ε (Member β)
  | .field n t args => do
    let t ← t.traverse f
    let args ← args.mapM (Argument.traverse f)
    return .field n t args
  | .input n t => (t.traverse f).map (.input n)

end Member

namespace Definition

def kind : Definition α → Kind
  | .record k _ _ => .record k
  | .enum _ _ => .enum
  | .other k _ _ => .other k

def name? : Definition α → Option String
  | .record _ n _ => some n
  | .enum n _ => some n
  | .other _ n _ => n

/-- names of the members or values that a definition lists -/
def listed : Definition α → List String
  | .record _ _ ms => ms.map Member.name
  | .enum _ vs => vs
  | .other _ _ ns => ns

def map (f : α → β) : Definition α → Definition β
  | .record k n ms => .record k n (ms.map (Member.map f))
  | .enum n vs => .enum n vs
  | .other k n ns => .other k n ns

/-- the definition over leaves that may be refused, members in order -/
def traverse (f : α → Except ε β) : Definition α → Except ε (Definition β)
  | .record k n ms => (ms.mapM (Member.traverse f)).map (.record k n)
  | .enum n vs => .ok (.enum n vs)
  | .other k n ns => .ok (.other k n ns)

end Definition

namespace Slot

/-- the name at a leaf, or the kind of the node that stands there instead (none: no node) -/
def check : Slot → Except (Option Kind) String
  | .named n => .ok n
  | .missing => .error none
  | .stray k => .error (some k)

end Slot

/-- the definition with names at all leaves, or what stands at the first leaf that is no name -/
def Definition.check (d : Definition Slot) : Except (Option Kind) (Definition String) :=
  d.traverse Slot.check

@[simp]
theorem TypeRef.traverse_map_named (t : TypeRef String) : (t.map Slot.named).traverse Slot.check = .ok t := by
  induction t with
  | leaf a => rfl
  | list t ih => simp [map, traverse, ih]
  | nonNull t ih => simp [map, traverse, ih]

@[simp]
theorem Argument.traverse_map_named (a : Argument String) : (a.map Slot.named).traverse Slot.check = .ok a := by
  simp [Argument.map, Argument.traverse]

/-- a list passes if each element passes -/
theorem mapM_eq_ok {f : β → Except ε α} {g : α → β} (h : ∀ a, f (g a) = .ok a) (as : List α) :
    (as.map g).mapM f = .ok as := by
  induction as with
  | nil => rfl
  | cons a as ih => simp [List.mapM_cons, h, ih]

@[simp]
theorem Member.traverse_map_named (m : Member String) : (m.map Slot.named).traverse Slot.check = .ok m := by
  cases m with
  | field n t args =>
    have h := mapM_eq_ok (f := Argument.traverse Slot.check) (g := Argument.map Slot.named)
      Argument.traverse_map_named args
    simp [Member.map, Member.traverse, h]
  | input n t => simp [Member.map, Member.traverse]

/-- a definition with names at all leaves passes the check unchanged -/
@[simp]
theorem Definition.check_map_named (d : Definition String) : (d.map Slot.named).check = .ok d := by
  cases d with
  | record k n ms =>
    have h := mapM_eq_ok (f := Member.traverse Slot.check) (g := Member.map Slot.named)
      Member.traverse_map_named ms
    simp [Definition.map, Definition.check, Definition.traverse, h]
  | enum n vs => rfl
  | other k n ns => rfl

end SchemaTypings.Schema
