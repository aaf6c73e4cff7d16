/-
When two schema texts have the same module: if and only if their documents have the same normal form.

No information is lost but the intended one (`Typings.normal`), whatever the header and the indent are, as long as the indent
ends no lines. They need not be texts.
-/
import SchemaTypings.Proofs.FirstFault
import SchemaTypings.Proofs.Typings.Unambiguous
import SchemaTypings.Proofs.Workspace.Outcome

namespace SchemaTypings.Workspace

open SchemaTypings.Config SchemaTypings.Typings
open SchemaTypings.Text (TextLike)
open SchemaTypings.Text.TextLike (Lacks)

/-- **Modules tell normal forms.** Texts that have modules for the same settings have the same one if and only if the
definitions they parse into are the same up to names of scalars and the kind of records without input values. -/
theorem moduleOfText_eq_iff {τ : Type} [TextLike τ] {s : Settings τ} (hindent : Lacks s.indent '\n')
    {text₁ text₂ : List Char} {out₁ out₂ : τ} (h₁ : moduleOfText s text₁ = .ok out₁)
    (h₂ : moduleOfText s text₂ = .ok out₂) :
    ∃ ds₁ ds₂, Sdl.parse text₁ = .ok ds₁ ∧ Sdl.parse text₂ = .ok ds₂ ∧
      (out₁ = out₂ ↔ ds₁.map normal = ds₂.map normal) := by
  obtain ⟨ds₁, hp₁, hd₁, rfl⟩ := wellFormed_of_moduleOfText h₁
  obtain ⟨ds₂, hp₂, hd₂, rfl⟩ := wellFormed_of_moduleOfText h₂
  refine ⟨ds₁, ds₂, hp₁, hp₂, ?_⟩
  rw [TextLike.append_right_inj]
  exact bodyText_eq_iff hindent hd₁ hd₂

/-- settings with an indent that looks like the end of a record -/
def braceSettings : Settings := ⟨"Request", "", "\x7d", by decide⟩

/-- a type with names of the module for its own -/
def objectText : List Char := "type Resolve \x7b Maybe(Field: [ID]): Maybe! \x7d enum E".toList

/-- the same as an interface, and with another scalar of the same name in the module -/
def interfaceText : List Char := "interface Resolve \x7b Maybe(Field: [String]): Maybe! \x7d enum E".toList

theorem moduleOfText_eq_iff_braces :
    Lacks braceSettings.indent '\n' ∧
      ∃ out, moduleOfText braceSettings objectText = .ok out ∧ moduleOfText braceSettings interfaceText = .ok out := by
  have hindent : Lacks braceSettings.indent '\n' := by decide
  obtain ⟨out₁, h₁⟩ : ∃ out, moduleOfText braceSettings objectText = .ok out := exists_of_isOk (by decide +kernel)
  obtain ⟨out₂, h₂⟩ : ∃ out, moduleOfText braceSettings interfaceText = .ok out := exists_of_isOk (by decide +kernel)
  obtain ⟨ds₁, ds₂, hp₁, hp₂, hiff⟩ := moduleOfText_eq_iff hindent h₁ h₂
  have hsame : (Sdl.parse objectText).toOption.map (List.map normal) =
      (Sdl.parse interfaceText).toOption.map (List.map normal) := by decide +kernel
  rw [hp₁, hp₂] at hsame
  obtain rfl := hiff.2 (Option.some.inj hsame)
  exact ⟨hindent, out₁, h₁, h₂⟩

end SchemaTypings.Workspace
