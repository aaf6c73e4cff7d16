/-
How the generation from a text can end: a syntax error, a definition that has no declaration, or a module. The header and the
indent have no say in it, so that they may be any strings; if they are texts, so is the module (`moduleOfText_strings`).
-/
import SchemaTypings.Proofs.Sdl.ParsedDefinition
import SchemaTypings.Proofs.Typings.Module
import SchemaTypings.Workspace.Generation

namespace SchemaTypings.Workspace

open SchemaTypings.Config SchemaTypings.Schema SchemaTypings.Typings
open SchemaTypings.Text (TextLike)
open SchemaTypings.Text.TextLike (ofText)

variable {τ σ : Type} [TextLike τ] [TextLike σ]

/-- a text with a module parses into definitions that all have declarations, and the module has these -/
theorem moduleOfText_eq_ok {s : Settings τ} {text : List Char} {out : τ} (h : moduleOfText s text = .ok out) :
    ∃ ds, Sdl.parse text = .ok ds ∧ (∀ d ∈ ds, d.isDeclared = true) ∧
      out = s.header ++ ofText "\n" ++ ofText (helperTypes s.context) ++ bodyText s.indent ds := by
  unfold moduleOfText at h
  cases hp : Sdl.parse text with
  | error f => simp [hp] at h
  | ok ds =>
    simp only [hp, moduleOf_eq] at h
    cases hu : firstUndeclared? ds with
    | some d => simp [hu] at h
    | none =>
      simp only [hu, Except.mapError, Except.ok.injEq] at h
      refine ⟨ds, rfl, fun d hd => ?_, h.symm⟩
      simpa using List.find?_eq_none.1 hu d hd

/-- and its definitions are well-formed -/
theorem wellFormed_of_moduleOfText {s : Settings τ} {text : List Char} {out : τ} (h : moduleOfText s text = .ok out) :
    ∃ ds, Sdl.parse text = .ok ds ∧ (∀ d ∈ ds, d.isDeclared = true ∧ d.WellFormed (Sdl.isName · = true)) ∧
      out = s.header ++ ofText "\n" ++ ofText (helperTypes s.context) ++ bodyText s.indent ds := by
  obtain ⟨ds, hparse, hdeclared, hout⟩ := moduleOfText_eq_ok h
  exact ⟨ds, hparse, fun d hd => ⟨hdeclared d hd, (Sdl.wellFormed_of_parse hparse).2 d hd⟩, hout⟩

/-- **A text has one of three outcomes.** A text that does not parse is a syntax error, whatever stands before its
place. A text that parses gives the first definition without declaration as a fault, with its kind and name, or else a
module. The definitions that are declared have names, and types made of names, wherever a declaration reads them, so
that a node that is no type is never met. -/
theorem moduleOfText_outcome (s : Settings τ) (text : List Char) :
    match Sdl.parse text with
    | .error f => moduleOfText s text = .error (.source text f)
    | .ok ds =>
      (ds ≠ [] ∧ ∀ d ∈ ds, d.WellFormed (Sdl.isName · = true)) ∧
        match ds.find? (!·.isDeclared) with
        | some d => moduleOfText s text = .error (.declaration (.unsupported d.kind.text d.name?))
        | none => ∃ out, moduleOfText s text = .ok out := by
  unfold moduleOfText
  cases hp : Sdl.parse text with
  | error f => rfl
  | ok ds =>
    refine ⟨Sdl.wellFormed_of_parse hp, ?_⟩
    have hm := moduleOf_eq s.context s.header s.indent ds
    unfold firstUndeclared? at hm
    simp only [hm]
    cases ds.find? (!·.isDeclared) with
    | some d => rfl
    | none => exact ⟨_, rfl⟩

/-- **Settings of texts and of strings have the same modules,** up to what they are as strings or are shown as. -/
theorem moduleOfText_map {f : τ → σ} (hf : TextLike.Preserves f) (s : Settings τ) (text : List Char) :
    moduleOfText ⟨s.context, f s.header, f s.indent, s.context_ne⟩ text = (moduleOfText s text).map f := by
  unfold moduleOfText
  cases Sdl.parse text with
  | error g => rfl
  | ok ds =>
    dsimp only [moduleOf]
    rw [moduleText_map hf]
    cases (moduleText s.context s.header s.indent (ds.map (·.map .named))).1 <;> rfl

@[simp]
theorem moduleOfText_strings (s : Settings) (text : List Char) :
    moduleOfText s.strings text = (moduleOfText s text).map Text.Str.text :=
  moduleOfText_map TextLike.preserves_text s text

end SchemaTypings.Workspace
