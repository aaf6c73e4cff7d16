/-
How the members of a module's records are wrapped.

What is proved of lines in `Typings.Wrapping` holds of the lines that a module is cut into (`moduleOfText_wrapped`): a
schema is read so that objects have fields only and input objects input values only, and that no name has a bracket. As in
`moduleOfText_paragraphs`, an indent that holds halves of pairs is shown with any character but a line end or a bracket for a
half.
-/
import SchemaTypings.Proofs.Typings.Wrapping
import SchemaTypings.Proofs.Workspace.ModuleShape

namespace SchemaTypings.Workspace

open SchemaTypings.Config SchemaTypings.Text SchemaTypings.Typings
open SchemaTypings.Text.TextLike (Lacks blank blank_ne notMem_shown ofText shown)

/-- **Each member of a module has the wrapper that its arguments ask for.** The indent may have names of wrappers, but no
bracket. -/
theorem moduleOfText_wrapped {τ : Type} [TextLike τ] {s : Settings τ} (hindent : Lacks s.indent '\n')
    (hopen : Lacks s.indent '<') {text : List Char} {out : τ} (h : moduleOfText s text = .ok out) :
    ∃ ds body, Sdl.parse text = .ok ds ∧ out = s.header ++ ofText "\n" ++ ofText (helperTypes s.context) ++ body ∧
      ∀ glyph : Surrogate → Char, (∀ n, glyph n ≠ '\n') → (∀ n, glyph n ≠ '<') → ∃ blocks,
        paragraphs (shown glyph body).toList = blocks ++ [[]] ∧
          List.Forall₂ (HasWrappedMembers (shown glyph s.indent)) ds blocks := by
  obtain ⟨ds, hparse, hds, hout⟩ := wellFormed_of_moduleOfText h
  refine ⟨ds, bodyText s.indent ds, hparse, hout, fun glyph hline hbracket => ?_⟩
  refine ⟨ds.map (block (shown glyph s.indent)), paragraphs_shown hline hindent hds, ?_⟩
  rw [List.forall₂_map_right_iff, List.forall₂_same]
  exact fun d hd => hasWrappedMembers_block ((notMem_shown hline).2 hindent) ((notMem_shown hbracket).2 hopen) (hds d hd)

/-- settings with the name of a wrapper before each member -/
def wrapperSettings : Settings := { Settings.default with indent := "Resolve" }

/-- types and members with names of wrappers, and with names that end with them -/
def wrapperText : List Char :=
  ("type Field \x7b MyField(Maybe: [Resolve!], Field: AsMaybe!): Resolve Resolve: [Field] \x7d " ++
    "input Maybe \x7b Field: Maybe \x7d").toList

theorem moduleOfText_wrapped_names :
    Lacks wrapperSettings.indent '\n' ∧ Lacks wrapperSettings.indent '<' ∧ (∀ n, blank n ≠ '\n') ∧ (∀ n, blank n ≠ '<') ∧
      ∃ out ds body blocks, moduleOfText wrapperSettings wrapperText = .ok out ∧ Sdl.parse wrapperText = .ok ds ∧
        out = wrapperSettings.header ++ "\n" ++ helperTypes wrapperSettings.context ++ body ∧
        paragraphs body.toList = blocks ++ [[]] ∧ List.Forall₂ (HasWrappedMembers wrapperSettings.indent) ds blocks := by
  have hindent : Lacks wrapperSettings.indent '\n' := by decide
  have hopen : Lacks wrapperSettings.indent '<' := by decide
  have hline : ∀ n, blank n ≠ '\n' := blank_ne (by decide)
  have hbracket : ∀ n, blank n ≠ '<' := blank_ne (by decide)
  obtain ⟨out, hout⟩ : ∃ out, moduleOfText wrapperSettings wrapperText = .ok out := exists_of_isOk (by decide +kernel)
  obtain ⟨ds, body, hparse, hbody, hwrapped⟩ := moduleOfText_wrapped hindent hopen hout
  obtain ⟨blocks, hblocks⟩ := hwrapped blank hline hbracket
  rw [TextLike.ofText_string, TextLike.ofText_string] at hbody
  rw [TextLike.shown_string, TextLike.shown_string] at hblocks
  exact ⟨hindent, hopen, hline, hbracket, out, ds, body, blocks, hout, hparse, hbody, hblocks⟩

end SchemaTypings.Workspace
