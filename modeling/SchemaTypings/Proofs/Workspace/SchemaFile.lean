/-
Generating from a schema file and from its text.

The file is read with LF for every line end, so that another text is parsed than the one that was written. The outcome
is the same (`generate_sameOutcome`): the same module, the same definition without a declaration, or a syntax error at
the same line and column. Its message may show other characters where a bad escape or a missing digit is at a line end;
`not_generate_sameOutcome_digit` has a missing digit for which it does.
-/
import SchemaTypings.Proofs.Sdl.UnifiedParse
import SchemaTypings.Proofs.Workspace.Generation
import SchemaTypings.Proofs.Workspace.SameModule

namespace SchemaTypings.Workspace

open SchemaTypings.Config SchemaTypings.Schema SchemaTypings.Sdl SchemaTypings.Text.Line
open SchemaTypings.Text (TextLike)
open SchemaTypings.Typings (Record)

variable {τ : Type} [TextLike τ]
variable {t : Tree} {path schema : String} {bytes : ByteArray} {text : List Char}

/-! ## Schema files -/

/-- what is generated from a schema file is the module of the text that it is read as -/
theorem generate_of_read (s : Settings τ) (hread : t.read (showPath schema) = .ok bytes)
    (hdecode : decode bytes = .ok text) :
    ∃ log, (generate schema none s : StateM Tree (Except Fault τ × List Record)) t =
      ((moduleOfText s text, log), t) := by
  obtain ⟨log, hgenerate⟩ := generate_apply schema none s t
  have hemission : emission t schema s = moduleOfText s text := by
    rw [emission_of_read hread, hdecode, Outcome.bind_ok]
  rw [hemission] at hgenerate
  refine ⟨log, hgenerate.trans ?_⟩
  cases moduleOfText s text <;> rfl

/-! ## Line ends -/

/-- outcomes that are the same; syntax errors up to a defect that they show, and up to the line ends of the text -/
inductive SameOutcome (R : Defect → Defect → Prop) : Except Fault τ → Except Fault τ → Prop where
  | ok (out : τ) : SameOutcome R (.ok out) (.ok out)
  | declaration (f : Typings.Fault) : SameOutcome R (.error (.declaration f)) (.error (.declaration f))
  | source {f g : SourceFault} (text : List Char) : f.AlikeBy R g →
      SameOutcome R (.error (.source text f)) (.error (.source (unify text) g))

theorem moduleOfText_unify (s : Settings τ) (text : List Char) :
    SameOutcome Defect.Alike (moduleOfText s text) (moduleOfText s (unify text)) := by
  unfold moduleOfText
  rcases parse_unify text with ⟨ds, hparse, hparse'⟩ | ⟨f, g, hparse, hparse', halike⟩
  · rw [hparse, hparse']
    dsimp only
    cases (Typings.moduleOf s.context s.header s.indent ds).1 with
    | error f => exact .declaration f
    | ok out => exact .ok out
  · rw [hparse, hparse']
    exact .source text halike

/-- **A schema file and its text have the same outcome**, whatever line ends there are. -/
theorem generate_sameOutcome (s : Settings τ) (schema : String) (t : Tree) (text : List Char)
    (hread : t.read (showPath schema) = .ok (encode (String.ofList text))) :
    ∃ r log, (generate schema none s : StateM Tree (Except Fault τ × List Record)) t = ((r, log), t) ∧
      SameOutcome Defect.Alike (moduleOfText s text) r := by
  obtain ⟨log, hgenerate⟩ := generate_of_read s hread (decode_encode_unify text)
  exact ⟨moduleOfText s (unify text), log, hgenerate, moduleOfText_unify s text⟩

/-- a tree with a schema file of a text -/
def schemaTree (text : List Char) : Tree := ⟨[(["s.graphql"], .file (encode (String.ofList text)))]⟩

theorem read_schemaTree (text : List Char) :
    (schemaTree text).read (showPath "s.graphql") = .ok (encode (String.ofList text)) := by
  have hshow : showPath "s.graphql" = "s.graphql" := rfl
  have hlocate : (schemaTree text).locate "s.graphql" = .ok ["s.graphql"] := by
    have hpath : "s.graphql" ≠ "" := by decide
    have hnames : namesOf "s.graphql" = ["s.graphql"] := rfl
    rw [Tree.locate, if_neg hpath, hnames]
    rfl
  rw [hshow, Tree.read, hlocate]
  rfl

/-- a schema with a mark of the byte order and with line ends of each kind, in a description, a comment and between -/
def mixedText : List Char :=
  "\uFEFF\x22\x22\x22 a\r\n b\r c\x22\x22\x22\r\ntype A # d\r\x7b f: Int\n\r\x7d".toList

theorem generate_sameOutcome_mixed :
    (schemaTree mixedText).read (showPath "s.graphql") = .ok (encode (String.ofList mixedText)) ∧
      ∃ out log, (generate "s.graphql" none Settings.default : StateM Tree (Except Fault String × List Record))
          (schemaTree mixedText) = ((.ok out, log), schemaTree mixedText) ∧
        moduleOfText Settings.default mixedText = .ok out := by
  refine ⟨read_schemaTree mixedText, ?_⟩
  obtain ⟨r, log, hgenerate, hsame⟩ :=
    generate_sameOutcome Settings.default "s.graphql" (schemaTree mixedText) mixedText (read_schemaTree mixedText)
  obtain ⟨out, hout⟩ : ∃ out, moduleOfText Settings.default mixedText = .ok out := exists_of_isOk (by decide +kernel)
  rw [hout] at hsame
  cases hsame with
  | ok => exact ⟨out, log, hgenerate, hout⟩

/-- a number without digits at the end of a line -/
def digitlessText : List Char := "enum A @a(b: -\r".toList

theorem parse_digitlessText :
    Sdl.parse digitlessText = .error ⟨.defect (.digitExpected (some '\r')), ⟨1, 15⟩⟩ ∧
      Sdl.parse (unify digitlessText) = .error ⟨.defect (.digitExpected (some '\n')), ⟨1, 15⟩⟩ := by
  decide +kernel

/-- up to bad escapes alone the outcomes are not the same: the line end is shown where a digit is missing -/
theorem not_generate_sameOutcome_digit :
    (schemaTree digitlessText).read (showPath "s.graphql") = .ok (encode (String.ofList digitlessText)) ∧
      ¬ ∃ r log, (generate "s.graphql" none Settings.default : StateM Tree (Except Fault String × List Record))
          (schemaTree digitlessText) = ((r, log), schemaTree digitlessText) ∧
        SameOutcome Defect.EscapeAlike (moduleOfText Settings.default digitlessText) r := by
  refine ⟨read_schemaTree digitlessText, ?_⟩
  rintro ⟨r, log, hgenerate, hsame⟩
  obtain ⟨htext, hfile⟩ := parse_digitlessText
  obtain ⟨log', hread⟩ :=
    generate_of_read Settings.default (read_schemaTree digitlessText) (decode_encode_unify digitlessText)
  have hr : r = moduleOfText Settings.default (unify digitlessText) := by
    rw [hgenerate] at hread
    exact (Prod.mk.inj (Prod.mk.inj hread).1).1
  rw [hr, moduleOfText, moduleOfText, htext, hfile] at hsame
  cases hsame with
  | source _ halike =>
    rcases halike.2 with hcause | ⟨d, e, hd, he, hde⟩
    · exact absurd hcause (by decide)
    · obtain rfl := Cause.defect.inj hd
      obtain rfl := Cause.defect.inj he
      rcases hde with hsame | ⟨_, _, hescape, _⟩ | ⟨_, _, hescape, _⟩
      · exact absurd hsame (by decide)
      · cases hescape
      · cases hescape

end SchemaTypings.Workspace
