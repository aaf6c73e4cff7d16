/-
What a module looks like.

After the header and the helpers, a module is cut at its empty lines into one block for each definition, in their order,
and an empty rest (`moduleOfText_paragraphs`). The indent may be any string without line ends, also one that looks like the
end of a record, and the schema may have any descriptions, values and comments. If the indent holds halves of pairs, what is
said of a line is said of the line as it is shown, with any character but a line end for a half; a text is shown as it is.
-/
import SchemaTypings.Proofs.Typings.Shape
import SchemaTypings.Proofs.Workspace.SameModule

namespace SchemaTypings.Workspace

open SchemaTypings.Config SchemaTypings.Text SchemaTypings.Typings
open SchemaTypings.Text.TextLike (Lacks blank blank_ne notMem_shown ofText preserves_shown shown)

section

variable {τ : Type} [TextLike τ]

/-- the blocks that the declarations of a document are cut into, as they are shown -/
theorem paragraphs_shown {glyph : Surrogate → Char} (hglyph : ∀ n, glyph n ≠ '\n') {indent : τ} (hindent : Lacks indent '\n')
    {ds : List (Schema.Definition String)} (hds : ∀ d ∈ ds, d.isDeclared = true ∧ d.WellFormed (Sdl.isName · = true)) :
    paragraphs (shown glyph (bodyText indent ds)).toList = ds.map (block (shown glyph indent)) ++ [[]] := by
  rw [← bodyText_map (preserves_shown glyph)]
  exact paragraphs_bodyText ((notMem_shown hglyph).2 hindent) hds

/-- **A module is cut at its empty lines into the blocks of its definitions.** -/
theorem moduleOfText_paragraphs {s : Settings τ} (hindent : Lacks s.indent '\n') {text : List Char} {out : τ}
    (h : moduleOfText s text = .ok out) :
    ∃ ds body, Sdl.parse text = .ok ds ∧ out = s.header ++ ofText "\n" ++ ofText (helperTypes s.context) ++ body ∧
      ∀ glyph : Surrogate → Char, (∀ n, glyph n ≠ '\n') → ∃ blocks,
        paragraphs (shown glyph body).toList = blocks ++ [[]] ∧ List.Forall₂ (IsBlock (shown glyph s.indent)) ds blocks := by
  obtain ⟨ds, hparse, hds, hout⟩ := wellFormed_of_moduleOfText h
  refine ⟨ds, bodyText s.indent ds, hparse, hout, fun glyph hglyph => ?_⟩
  refine ⟨ds.map (block (shown glyph s.indent)), paragraphs_shown hglyph hindent hds, ?_⟩
  rw [List.forall₂_map_right_iff, List.forall₂_same]
  exact fun d hd => isBlock_block ((notMem_shown hglyph).2 hindent) (hds d hd)

end

/-- a type with a description and a default value of other characters than declarations have, and an enum after it -/
def markedText : List Char := "\"\\\"#\\u0000\" type A \x7b b(c: ID! = \"%\\n\\n\"): [A] \x7d enum E \x7b F G \x7d".toList

theorem moduleOfText_paragraphs_marked :
    Lacks braceSettings.indent '\n' ∧ (∀ n, blank n ≠ '\n') ∧ ∃ out ds body blocks,
      moduleOfText braceSettings markedText = .ok out ∧ Sdl.parse markedText = .ok ds ∧
      out = braceSettings.header ++ "\n" ++ helperTypes braceSettings.context ++ body ∧
      paragraphs body.toList = blocks ++ [[]] ∧ List.Forall₂ (IsBlock braceSettings.indent) ds blocks := by
  have hindent : Lacks braceSettings.indent '\n' := by decide
  have hglyph : ∀ n, blank n ≠ '\n' := blank_ne (by decide)
  obtain ⟨out, hout⟩ : ∃ out, moduleOfText braceSettings markedText = .ok out := exists_of_isOk (by decide +kernel)
  obtain ⟨ds, body, hparse, hbody, hshape⟩ := moduleOfText_paragraphs hindent hout
  obtain ⟨blocks, hblocks⟩ := hshape blank hglyph
  rw [TextLike.ofText_string, TextLike.ofText_string] at hbody
  rw [TextLike.shown_string, TextLike.shown_string] at hblocks
  exact ⟨hindent, hglyph, out, ds, body, blocks, hout, hparse, hbody, hblocks⟩

end SchemaTypings.Workspace
