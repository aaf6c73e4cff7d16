/-
Schemas in several texts.

The module of a text is the preamble of the settings and the declarations of its definitions (`moduleOfText_eq_ok_iff`).
Texts that have modules may be put below one another: where the first of them ended, nothing of a definition goes on with
the next, so the module of all is the module of the first with the declarations of the others behind it
(`moduleOfText_intercalate`).
-/
import SchemaTypings.Proofs.Sdl.JoinedParse
import SchemaTypings.Proofs.Workspace.SameModule

namespace SchemaTypings.Workspace

open SchemaTypings.Config SchemaTypings.Schema SchemaTypings.Typings
open SchemaTypings.Text (TextLike)
open SchemaTypings.Text.TextLike (ofText)

section

variable {τ : Type} [TextLike τ]

/-- what a module has before the declarations: the header, a line end and the helpers -/
def preamble (s : Settings τ) : τ := s.header ++ ofText "\n" ++ ofText (helperTypes s.context)

@[simp]
theorem bodyText_append (indent : τ) (ds es : List (Definition String)) :
    bodyText indent (ds ++ es) = bodyText indent ds ++ bodyText indent es := by
  rw [bodyText, List.map_append, TextLike.join_append, bodyText, bodyText]

theorem bodyText_flatten (indent : τ) (dss : List (List (Definition String))) :
    bodyText indent dss.flatten = TextLike.join (dss.map (bodyText indent)) := by
  induction dss with
  | nil => rfl
  | cons ds dss ih => rw [List.flatten_cons, bodyText_append, ih, List.map_cons, TextLike.join_cons]

theorem moduleOfText_eq_ok_iff {s : Settings τ} {text : List Char} {out : τ} :
    moduleOfText s text = .ok out ↔ ∃ ds, Sdl.Declares text ds ∧ out = preamble s ++ bodyText s.indent ds := by
  constructor
  · intro h
    obtain ⟨ds, hparse, hdeclared, rfl⟩ := moduleOfText_eq_ok h
    exact ⟨ds, ⟨hparse, hdeclared⟩, rfl⟩
  · rintro ⟨ds, h, rfl⟩
    have hnone : firstUndeclared? ds = none :=
      List.find?_eq_none.2 fun d hd => by simp [h.declared d hd]
    unfold moduleOfText
    simp only [h.parses, moduleOf_eq, hnone]
    rfl

/-- texts with modules have definitions, which make up the modules after the preamble -/
theorem exists_definitions {s : Settings τ} {texts : List (List Char)} {outs : List τ}
    (h : List.Forall₂ (fun text out => moduleOfText s text = .ok out) texts outs) :
    ∃ dss, List.Forall₂ Sdl.Declares texts dss ∧
      List.Forall₂ (fun out body => out = preamble s ++ body) outs (dss.map (bodyText s.indent)) := by
  induction h with
  | nil => exact ⟨[], .nil, .nil⟩
  | cons h _ ih =>
    obtain ⟨ds, hds, hout⟩ := moduleOfText_eq_ok_iff.1 h
    obtain ⟨dss, hdss, houts⟩ := ih
    exact ⟨ds :: dss, .cons hds hdss, .cons hout houts⟩

/-- **Schemas may be split into texts.** Texts that have modules have one when they are joined by line ends, in the same
order and however many they are. It is the module of the first text, followed by what the modules of the others have
after the preamble. -/
theorem moduleOfText_intercalate {s : Settings τ} {text : List Char} {out : τ} (h : moduleOfText s text = .ok out)
    {texts : List (List Char)} {outs : List τ}
    (hs : List.Forall₂ (fun text out => moduleOfText s text = .ok out) texts outs) :
    ∃ bodies : List τ, List.Forall₂ (fun out body => out = preamble s ++ body) outs bodies ∧
      moduleOfText s (['\n'].intercalate (text :: texts)) = .ok (out ++ TextLike.join bodies) := by
  obtain ⟨ds, hds, rfl⟩ := moduleOfText_eq_ok_iff.1 h
  obtain ⟨dss, hdss, houts⟩ := exists_definitions hs
  refine ⟨_, houts, moduleOfText_eq_ok_iff.2 ⟨ds ++ dss.flatten, hds.intercalate hdss, ?_⟩⟩
  rw [bodyText_append, bodyText_flatten, TextLike.append_assoc]

end

/-- a type that ends with interfaces, and a comment without a line end -/
def openText : List Char := "type A implements B & C # and".toList

/-- an input object that ends with a directive, to which braces or arguments could belong -/
def directedText : List Char := "input E @f".toList

/-- an enum with a description, which could stand for no part of a type -/
def describedText : List Char := "\x22of A\x22 enum D".toList

theorem moduleOfText_intercalate_open :
    ∃ out out₁ out₂ body₁ body₂,
      moduleOfText Settings.default openText = .ok out ∧
      moduleOfText Settings.default directedText = .ok out₁ ∧ out₁ = preamble Settings.default ++ body₁ ∧
      moduleOfText Settings.default describedText = .ok out₂ ∧ out₂ = preamble Settings.default ++ body₂ ∧
      moduleOfText Settings.default (['\n'].intercalate [openText, directedText, describedText]) =
        .ok (out ++ TextLike.join [body₁, body₂]) := by
  obtain ⟨out, h⟩ : ∃ out, moduleOfText Settings.default openText = .ok out := exists_of_isOk (by decide +kernel)
  obtain ⟨out₁, h₁⟩ : ∃ out, moduleOfText Settings.default directedText = .ok out := exists_of_isOk (by decide +kernel)
  obtain ⟨out₂, h₂⟩ : ∃ out, moduleOfText Settings.default describedText = .ok out := exists_of_isOk (by decide +kernel)
  obtain ⟨bodies, hbodies, hjoined⟩ := moduleOfText_intercalate h (.cons h₁ (.cons h₂ .nil))
  cases hbodies with
  | cons hbody₁ hrest =>
    cases hrest with
    | cons hbody₂ hnil =>
      cases hnil
      exact ⟨_, _, _, _, _, h, h₁, hbody₁, h₂, hbody₂, hjoined⟩

end SchemaTypings.Workspace
