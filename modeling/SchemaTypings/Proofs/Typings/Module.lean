/-
The module of definitions whose type positions hold names.

Such a definition is either declared or of a kind without declaration, so that only the second keeps a document from
having a module. `moduleOf_eq`: the first one in the order of the document is the fault; without one the module is the
header, the helpers and the declarations, each with an empty line after it. The header and the indent may be texts or any
strings: a text has the same module as a string, and so it has as the text that a string is shown as (`moduleText_map`).
-/
import SchemaTypings.Proofs.Schema.WellFormed
import SchemaTypings.Proofs.Text.Strings
import SchemaTypings.Typings.Module

namespace SchemaTypings.Typings

open SchemaTypings.Schema
open SchemaTypings.Text (TextLike)
open SchemaTypings.Text.TextLike (ofText)

section

variable {τ σ : Type} [TextLike τ] [TextLike σ]

/-- the declaration of a definition, empty if it has none -/
def declaration (indent : τ) : Definition String → τ
  | .record _ n ms => recordText indent n ms
  | .enum n vs => ofText (enumText n vs)
  | .other _ _ _ => ofText ""

/-- the declarations of definitions, each with an empty line after it -/
def bodyText (indent : τ) (ds : List (Definition String)) : τ :=
  TextLike.join (ds.map fun d => declaration indent d ++ ofText "\n")

def firstUndeclared? (ds : List (Definition String)) : Option (Definition String) := ds.find? (!·.isDeclared)

/-- what is said of a definition without declaration: its kind, and its name if it has one -/
def unsupportedFault (d : Definition String) : Fault := .unsupported d.kind.text d.name?

theorem declareNamed_eq (indent : τ) (d : Definition String) :
    declareNamed indent d = if d.isDeclared then .ok (declaration indent d) else .error (unsupportedFault d) := by
  cases d <;> rfl

@[simp]
theorem bodyText_cons (indent : τ) (d : Definition String) (ds : List (Definition String)) :
    bodyText indent (d :: ds) = declaration indent d ++ ofText "\n" ++ bodyText indent ds := by
  rw [bodyText, List.map_cons, TextLike.join_cons, bodyText]

theorem blocks_map_named (indent : τ) (ds : List (Definition String)) :
    (blocks indent (ds.map (·.map .named))).1 =
      match firstUndeclared? ds with
      | some d => .error (unsupportedFault d)
      | none => .ok (bodyText indent ds) := by
  induction ds with
  | nil => rfl
  | cons d ds ih =>
    rw [List.map_cons, blocks_cons, declare_map_named, declareNamed_eq]
    cases hd : d.isDeclared with
    | false => simp [firstUndeclared?, hd]
    | true =>
      have hfirst : firstUndeclared? (d :: ds) = firstUndeclared? ds := by simp [firstUndeclared?, hd]
      simp only [if_true, hfirst, ih]
      cases firstUndeclared? ds with
      | some e => rfl
      | none => simp

/-- **The module of named definitions.** The first one without declaration decides; without one none is left out. -/
theorem moduleOf_eq (context : String) (header indent : τ) (ds : List (Definition String)) :
    (moduleOf context header indent ds).1 =
      match firstUndeclared? ds with
      | some d => .error (unsupportedFault d)
      | none => .ok (header ++ ofText "\n" ++ ofText (helperTypes context) ++ bodyText indent ds) := by
  simp only [moduleOf, moduleText_eq, blocks_map_named]
  cases firstUndeclared? ds <;> rfl

/-! ## Strings -/

variable {f : τ → σ}

theorem recordText_map (hf : TextLike.Preserves f) (indent : τ) (n : String) (ms : List (Member String)) :
    recordText (f indent) n ms = f (recordText indent n ms) := by
  have hlines : ms.map (memberLine (f indent)) = (ms.map (memberLine indent)).map f := by
    rw [List.map_map]
    refine List.map_congr_left fun m _ => ?_
    rw [Function.comp, memberLine, memberLine, hf.append, hf.append, hf.ofText, hf.ofText]
  rw [recordText, hlines, ← hf.join, recordText, hf.append, hf.append, hf.ofText, hf.ofText]

theorem declare_map (hf : TextLike.Preserves f) (indent : τ) (d : Definition Slot) :
    declare (f indent) d = (declare indent d).map f := by
  unfold declare
  cases d.check with
  | error k => rfl
  | ok d =>
    cases d with
    | record k n ms => exact congrArg Except.ok (recordText_map hf indent n ms)
    | enum n vs => exact congrArg Except.ok (hf.ofText _).symm
    | other k n _ => rfl

theorem blocks_map (hf : TextLike.Preserves f) (indent : τ) (ds : List (Definition Slot)) :
    blocks (f indent) ds = ((blocks indent ds).1.map f, (blocks indent ds).2) := by
  induction ds with
  | nil => exact Prod.ext (congrArg Except.ok (hf.ofText "").symm) rfl
  | cons d ds ih =>
    rw [blocks_cons, blocks_cons, declare_map hf, ih]
    cases declare indent d with
    | error g => rfl
    | ok block =>
      cases (blocks indent ds).1 with
      | error g => rfl
      | ok body => simp [hf.append, hf.ofText]

theorem declaration_map (hf : TextLike.Preserves f) (indent : τ) (d : Definition String) :
    declaration (f indent) d = f (declaration indent d) := by
  cases d with
  | record k n ms => exact recordText_map hf indent n ms
  | enum n vs => exact (hf.ofText _).symm
  | other k n ns => exact (hf.ofText _).symm

theorem bodyText_map (hf : TextLike.Preserves f) (indent : τ) (ds : List (Definition String)) :
    bodyText (f indent) ds = f (bodyText indent ds) := by
  rw [bodyText, bodyText, hf.join, List.map_map]
  congr 1
  refine List.map_congr_left fun d _ => ?_
  rw [Function.comp, declaration_map hf, hf.append, hf.ofText]

/-- **Texts and strings have the same modules,** up to what they are as strings or are shown as. -/
theorem moduleText_map (hf : TextLike.Preserves f) (context : String) (header indent : τ) (ds : List (Definition Slot)) :
    moduleText context (f header) (f indent) ds =
      ((moduleText context header indent ds).1.map f, (moduleText context header indent ds).2) := by
  rw [moduleText_eq, moduleText_eq, blocks_map hf]
  cases (blocks indent ds).1 with
  | error g => rfl
  | ok body => simp [hf.append, hf.ofText]

end

end SchemaTypings.Typings
