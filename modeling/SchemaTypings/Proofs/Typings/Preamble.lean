/-
Header and context type are texts that nothing reads.

The helper declarations are a template with one field, and what is put in for the field is not read again
(`fill_helperTemplate`). So the context type stands between two fixed texts, whatever braces, quotes or line ends it has,
and it is told from the helpers (`helperTypes_injective`). The definitions are declared without a look at either text:
the outcome, up to what stands before the declarations, and the log are the same for all of them (`moduleText_preamble`).
-/
import Mathlib.Tactic
import SchemaTypings.Typings.Module

namespace SchemaTypings.Typings

open SchemaTypings.Schema SchemaTypings.Text
open SchemaTypings.Text.TextLike (ofText)

/-! ## Helpers -/

theorem toList_helperTypes (context : String) :
    (helperTypes context).toList = helpersBefore.toList ++ (context.toList ++ helpersAfter.toList) := by
  rw [helperTypes_eq, String.toList_append, String.toList_append, List.append_assoc]

/-- **The helpers tell the context type.** -/
theorem helperTypes_injective : Function.Injective helperTypes := by
  intro context context' h
  have hlist : helpersBefore.toList ++ (context.toList ++ helpersAfter.toList) =
      helpersBefore.toList ++ (context'.toList ++ helpersAfter.toList) := by
    rw [← toList_helperTypes, ← toList_helperTypes, h]
  exact String.toList_inj.1 (List.append_cancel_right (List.append_cancel_left hlist))

/-- the line ends of the helpers are their own four and those of the context type -/
theorem count_helperTypes (context : String) : (helperTypes context).toList.count '\n' = 4 + context.toList.count '\n' := by
  have hbefore : helpersBefore.toList.count '\n' = 1 := by
    unfold helpersBefore
    rw [String.toList_append, String.toList_ofList, String.toList_ofList]
    decide +kernel
  have hafter : helpersAfter.toList.count '\n' = 3 := by
    unfold helpersAfter
    rw [String.toList_append, String.toList_append, String.toList_ofList, String.toList_ofList, String.toList_ofList]
    decide +kernel
  rw [toList_helperTypes, List.count_append, List.count_append, hbefore, hafter]
  omega

/-- the braces that are doubled in the template are there -/
theorem braces_helpersBefore : "TArgs = \x7b\x7d>".toList <:+: helpersBefore.toList := by
  unfold helpersBefore
  rw [String.toList_append, String.toList_ofList, String.toList_ofList, String.toList_ofList]
  decide +kernel

/-! ## Modules -/

/-- **Header and context type are inert.** Definitions and indent alone decide whether there is a module, its declarations
or the fault, and the log. Before the declarations stand the header, a line end, and the helpers with the context type
between two fixed texts, for which the template can always be filled in. -/
theorem moduleText_preamble {τ : Type} [TextLike τ] (indent : τ) (ds : List (Definition Slot)) :
    ((∃ f log, ∀ context header, moduleText context header indent ds = (.error f, log)) ∨
      ∃ body log, ∀ context header, moduleText context header indent ds =
        (.ok (header ++ ofText "\n" ++ ofText (helperTypes context) ++ body), log)) ∧
      (∀ context, Template.fill [("context", context)] helperTemplate = .ok (helperTypes context) ∧
        helperTypes context = helpersBefore ++ context ++ helpersAfter ∧
        (helperTypes context).toList.count '\n' = 4 + context.toList.count '\n') ∧
      "TArgs = \x7b\x7d>".toList <:+: helpersBefore.toList ∧ Function.Injective helperTypes := by
  refine ⟨?_, fun context => ⟨?_, helperTypes_eq context, count_helperTypes context⟩, braces_helpersBefore,
    helperTypes_injective⟩
  · cases hblocks : blocks indent ds with
    | mk result records =>
      have hmodule : ∀ context header, moduleText context header indent ds =
          (result.map (header ++ ofText "\n" ++ ofText (helperTypes context) ++ ·), .emittingAll ds.length :: records) := by
        intro context header
        rw [moduleText_eq, hblocks]
      cases result with
      | error f => exact .inl ⟨f, _, hmodule⟩
      | ok body => exact .inr ⟨body, _, hmodule⟩
  · rw [helperTypes_eq]
    exact fill_helperTemplate context

end SchemaTypings.Typings
