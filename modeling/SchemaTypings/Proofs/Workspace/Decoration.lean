/-
What the generator does not read never reaches the module.

Descriptions, interfaces, directives and default values may stand wherever the grammar allows them, with strings of any
content in them. `moduleOfText_decorated`: the module of the text is the one of the definitions alone, written plainly.
Two limits are needed, on lists around a type and on lists and objects around a constant value; without either of them
`not_moduleOfText_decorated_deep` has definitions whose text is refused.
-/
import SchemaTypings.Proofs.Sdl.Literal
import SchemaTypings.Proofs.Sdl.RoundTrip
import SchemaTypings.Proofs.Workspace.Outcome

namespace SchemaTypings.Workspace

open SchemaTypings.Config SchemaTypings.Schema SchemaTypings.Sdl SchemaTypings.Sdl.Parser
open SchemaTypings.Text (TextLike)

/-- the module of a text depends on its definitions, and declared definitions have one -/
theorem exists_moduleOfText {τ : Type} [TextLike τ] {s : Settings τ} {ds : List (Definition String)} {text : List Char}
    (hparse : Sdl.parse text = .ok ds) (hd : ∀ d ∈ ds, d.isDeclared = true) : ∃ out, moduleOfText s text = .ok out := by
  have houtcome := moduleOfText_outcome s text
  have hnone : ds.find? (!·.isDeclared) = none := by
    rw [List.find?_eq_none]
    intro d h
    simp [hd d h]
  rw [hparse] at houtcome
  simp only [hnone] at houtcome
  exact houtcome.2

/-- **Decoration does not change the module.** A text of definitions with any descriptions, interfaces, directives and
default values has a module, and it is the one of the plain text of the same definitions. -/
theorem moduleOfText_decorated {τ : Type} [TextLike τ] {s : Settings τ} {ds : List (Definition String)}
    {tss : List (List Token)} {text plain : List Char} (hne : ds ≠ [])
    (hd : ∀ d ∈ ds, d.isDeclared = true ∧ d.WellFormed (isName · = true) ∧ ∀ t ∈ d.types, t.lists ≤ levelLimit)
    (hdecorates : List.Forall₂ (DecoratesDefinition levelLimit) ds tss) (hwrites : Writes Spelled tss.flatten text)
    (hplain : Writes Spells (ds.flatMap definitionTokens) plain) :
    ∃ out, moduleOfText s text = .ok out ∧ moduleOfText s plain = .ok out := by
  have hdecorated : Sdl.parse text = .ok ds := by
    apply parse_of_document
    rw [tokens_of_writes (fun _ _ h => h.reads) hwrites]
    exact document_decorated hne hdecorates fun d h => (hd d h).2
  have halone : Sdl.parse plain = .ok ds := by
    apply parse_of_document
    rw [tokens_of_writes (fun _ _ h => h.reads) hplain]
    exact document_definitionTokens hne hd
  have hsame : moduleOfText s text = moduleOfText s plain := by
    unfold moduleOfText
    rw [hdecorated, halone]
  obtain ⟨out, hout⟩ := exists_moduleOfText (s := s) halone fun d h => (hd d h).1
  exact ⟨out, hsame.trans hout, hout⟩

/-- a type with a field and an argument, and an enum -/
def plainSchema : List (Definition String) :=
  [.record .object "A" [.field "f" (.leaf "Int") [⟨"z", .leaf "ID"⟩]], .enum "E" ["V"]]

/-- a description with all that ends a description or a definition -/
def braceBlock : List Char := "type \x7d \"\"\" ".toList

/-- the schema with a decoration of each sort -/
def decoratedTokens : List (List Token) :=
  [[.block (String.ofList (blockValue braceBlock)), .name "type", .name "A", .name "implements", .name "B",
    .punct .atSign, .name "d", .punct .parenOpen, .name "x", .punct .colon, .punct .bracketOpen, .punct .braceOpen,
    .name "y", .punct .colon, .float "-1.5", .punct .braceClose, .punct .bracketClose, .punct .parenClose,
    .punct .braceOpen, .string "\x7d", .name "f", .punct .parenOpen, .name "z", .punct .colon, .name "ID",
    .punct .equal, .string "\x7d", .punct .parenClose, .punct .colon, .name "Int", .punct .braceClose],
   [.name "enum", .name "E", .punct .braceOpen, .name "V", .punct .atSign, .name "e", .punct .braceClose]]

theorem plainSchema_wellFormed : ∀ d ∈ plainSchema,
    d.isDeclared = true ∧ d.WellFormed (isName · = true) ∧ ∀ t ∈ d.types, t.lists ≤ levelLimit := by
  decide

theorem decoratedTokens_decorates : List.Forall₂ (DecoratesDefinition levelLimit) plainSchema decoratedTokens := by
  have hx : IsConstant levelLimit [.punct .bracketOpen, .punct .braceOpen, .name "y", .punct .colon, .float "-1.5",
      .punct .braceClose, .punct .bracketClose] := by
    have hy : ∀ e ∈ [("y", [Token.float "-1.5"])], IsConstant 198 e.2 := List.forall_mem_singleton.2 (.float "-1.5")
    have hobject : ∀ ts ∈ [_], IsConstant 199 ts := List.forall_mem_singleton.2 (.object hy)
    exact .list hobject
  have hd : IsDirectives levelLimit [.punct .atSign, .name "d", .punct .parenOpen, .name "x", .punct .colon,
      .punct .bracketOpen, .punct .braceOpen, .name "y", .punct .colon, .float "-1.5", .punct .braceClose,
      .punct .bracketClose, .punct .parenClose] :=
    have hentry : ∀ e ∈ [("x", _)], IsConstant levelLimit e.2 := List.forall_mem_singleton.2 hx
    ⟨[_], List.forall_mem_singleton.2 (.mk "d" hentry), rfl⟩
  have he : IsDirectives levelLimit [.punct .atSign, .name "e"] :=
    have hnone : ∀ e ∈ ([] : List (String × List Token)), IsConstant levelLimit e.2 := by simp
    ⟨[_], List.forall_mem_singleton.2 (.mk "e" hnone), rfl⟩
  have hz : DecoratesArgument levelLimit ⟨"z", .leaf "ID"⟩
      [.name "z", .punct .colon, .name "ID", .punct .equal, .string "\x7d"] := by
    have hdefault : IsDefault levelLimit [.punct .equal, .string "\x7d"] := .inr ⟨_, .string _, rfl⟩
    exact .mk isDescription_nil hdefault isDirectives_nil
  have hf : DecoratesMember levelLimit (.field "f" (.leaf "Int") [⟨"z", .leaf "ID"⟩])
      [.string "\x7d", .name "f", .punct .parenOpen, .name "z", .punct .colon, .name "ID", .punct .equal,
        .string "\x7d", .punct .parenClose, .punct .colon, .name "Int"] := by
    have hdescription : IsDescription [.string "\x7d"] := .inr ⟨_, .inl rfl⟩
    exact .field hdescription (.cons hz .nil) isDirectives_nil
  have hblock : IsDescription [.block (String.ofList (blockValue braceBlock))] := .inr ⟨_, .inr rfl⟩
  have hinterfaces : IsInterfaces [.name "implements", .name "B"] := @IsInterfaces.some [] "B" [] (.inl rfl)
  have hA : DecoratesDefinition levelLimit (.record .object "A" [.field "f" (.leaf "Int") [⟨"z", .leaf "ID"⟩]]) _ :=
    .record hblock hinterfaces (fun h => by cases h) hd (.cons hf .nil)
  have hV : DecoratesValue levelLimit "V" [.name "V", .punct .atSign, .name "e"] :=
    .mk isDescription_nil he
  have hE : DecoratesDefinition levelLimit (.enum "E" ["V"]) _ :=
    .enum isDescription_nil isDirectives_nil (.cons hV .nil)
  exact .cons hA (.cons hE .nil)

/-- how the tokens are written; the string has its brace as an escape -/
def decoratedSpelling : Token → List Char
  | .block _ => "\x22\x22\x22type \x7d \\\x22\x22\x22 \x22\x22\x22".toList
  | .string _ => "\x22\\u\x7b7D\x7d\x22".toList
  | .float n => n.toList
  | t => spelling t

def decoratedText : List Char := [' '].intercalate (decoratedTokens.flatten.map decoratedSpelling)

theorem braceBlock_body : BlockBody braceBlock "type \x7d \\\x22\x22\x22 ".toList := by
  have hplain : ∀ {c : Char} {v cs : List Char}, c ≠ '"' → c ≠ '\\' → BlockBody v cs →
      BlockBody (c :: v) (c :: cs) := by
    intro c v cs hquote hslash h
    refine .plain ?_ ?_ h
    · rintro ⟨us, hus⟩
      exact hquote (List.cons.inj hus).1.symm
    · rintro ⟨us, hus⟩
      exact hslash (List.cons.inj hus).1.symm
  have hend : BlockBody (tripleQuote ++ [' ']) ('\\' :: (tripleQuote ++ [' '])) :=
    .quotes (hplain (by decide) (by decide) .nil)
  refine hplain (c := 't') (by decide) (by decide) (hplain (c := 'y') (by decide) (by decide) ?_)
  refine hplain (c := 'p') (by decide) (by decide) (hplain (c := 'e') (by decide) (by decide) ?_)
  refine hplain (c := ' ') (by decide) (by decide) (hplain (c := '}') (by decide) (by decide) ?_)
  exact hplain (c := ' ') (by decide) (by decide) hend

theorem decoratedTokens_spelled : ∀ t ∈ decoratedTokens.flatten, Spelled t (decoratedSpelling t) := by
  have hwhole : IsWhole ['1'] := .inr ⟨⟨by simp, List.forall_mem_singleton.2 rfl⟩, by simp⟩
  have hfraction : IsFraction ['.', '5'] := .inr ⟨['5'], ⟨by simp, List.forall_mem_singleton.2 rfl⟩, rfl⟩
  have hexponent : IsExponent [] := .inl rfl
  have hfloat : Spelled (.float "-1.5") "-1.5".toList :=
    @Spelled.number ['-'] _ _ _ (.inr rfl) hwhole hfraction hexponent
  have hbrace : StringBody ['}'] "\\u\x7b7D\x7d".toList :=
    @StringBody.braces ['7', 'D'] _ _ 0x7D _ (by simp) (by decide) rfl rfl .nil
  have hstring : Spelled (.string "\x7d") "\x22\\u\x7b7D\x7d\x22".toList := .string hbrace
  have hsimple : ∀ t ∈ decoratedTokens.flatten,
      (∃ n, t = .name n ∧ isName n = true) ∨ (∃ p, t = .punct p) ∨ t = .float "-1.5" ∨ t = .string "\x7d" ∨
        t = .block (String.ofList (blockValue braceBlock)) := by
    simp [decoratedTokens]
    decide
  intro t ht
  rcases hsimple t ht with ⟨n, rfl, hn⟩ | ⟨p, rfl⟩ | rfl | rfl | rfl
  · exact .simple (.name hn)
  · exact .simple (.punct p)
  · exact hfloat
  · exact hstring
  · exact .block braceBlock_body

theorem moduleOfText_decorated_braces :
    ∃ out, moduleOfText ⟨"Request", "", "  ", by decide⟩ decoratedText = .ok out ∧
      moduleOfText ⟨"Request", "", "  ", by decide⟩ (textWith [' '] (plainSchema.flatMap definitionTokens)) =
        .ok out := by
  have hblank : Separator [' '] := .blank rfl .nil
  have hspelled : List.Forall₂ Spelled decoratedTokens.flatten (decoratedTokens.flatten.map decoratedSpelling) :=
    List.forall₂_map_right_iff.2 (List.forall₂_same.2 decoratedTokens_spelled)
  refine moduleOfText_decorated (by decide) plainSchema_wellFormed decoratedTokens_decorates ?_ ?_
  · exact writes_intercalate hblank (by decide) (by simp [decoratedTokens]) hspelled
  · refine writes_definitions hblank (by decide) (by decide) fun d hd => ?_
    exact ⟨(plainSchema_wellFormed d hd).1, (plainSchema_wellFormed d hd).2.1⟩

/-! ## The limits -/

/-- lists around a constant value -/
def nestedValue : Nat → List Token
  | 0 => [.name "c"]
  | n + 1 => .punct .bracketOpen :: (nestedValue n ++ [.punct .bracketClose])

theorem nestedValue_isConstant (n : Nat) : IsConstant n (nestedValue n) := by
  induction n with
  | zero => exact .name "c"
  | succ n ih =>
    have hitems : ∀ ts ∈ [nestedValue n], IsConstant n ts := List.forall_mem_singleton.2 ih
    have hlist := IsConstant.list hitems
    simpa [nestedValue] using hlist

theorem spells_nestedValue (n : Nat) : ∀ t ∈ nestedValue n, Spells t (spelling t) := by
  induction n with
  | zero => exact List.forall_mem_singleton.2 (.name rfl)
  | succ n ih =>
    refine List.forall_mem_cons.2 ⟨.punct _, List.forall_mem_append.2 ⟨ih, ?_⟩⟩
    exact List.forall_mem_singleton.2 (.punct _)

/-- an enum with a directive whose argument has one list more than a document may nest -/
def deepValueTokens : List Token :=
  [.name "enum", .name "A", .punct .atSign, .name "d", .punct .parenOpen, .name "x", .punct .colon] ++
    (nestedValue (levelLimit + 1) ++ [.punct .parenClose])

theorem deepValueTokens_decorates :
    List.Forall₂ (DecoratesDefinition (levelLimit + 1)) [.enum "A" []] [deepValueTokens] := by
  have hentry : ∀ e ∈ [("x", nestedValue (levelLimit + 1))], IsConstant (levelLimit + 1) e.2 :=
    List.forall_mem_singleton.2 (nestedValue_isConstant _)
  have hdirective := IsDirective.mk "d" hentry
  have hdirectives : IsDirectives (levelLimit + 1) (.punct .atSign :: .name "d" :: .punct .parenOpen :: .name "x" ::
      .punct .colon :: (nestedValue (levelLimit + 1) ++ [.punct .parenClose])) := by
    refine ⟨[_], List.forall_mem_singleton.2 hdirective, ?_⟩
    simp [optionalTokens, entryTokens]
  have henum := DecoratesDefinition.enum (n := "A") isDescription_nil hdirectives .nil
  refine .cons ?_ .nil
  simpa [optionalTokens, deepValueTokens] using henum

theorem deepValueTokens_writes : Writes Spells deepValueTokens (textWith [' '] deepValueTokens) := by
  refine writes_textWith (.blank rfl .nil) (by decide) (by simp [deepValueTokens]) ?_
  refine List.forall_mem_append.2 ⟨?_, List.forall_mem_append.2 ⟨spells_nestedValue _, ?_⟩⟩
  · intro t ht
    have hsimple : (∃ n, t = .name n ∧ isName n = true) ∨ ∃ p, t = .punct p := by
      simp only [List.mem_cons, List.not_mem_nil, or_false] at ht
      rcases ht with rfl | rfl | rfl | rfl | rfl | rfl | rfl <;> simp <;> decide
    rcases hsimple with ⟨n, rfl, hn⟩ | ⟨p, rfl⟩
    · exact .name hn
    · exact .punct p
  · exact List.forall_mem_singleton.2 (.punct _)

theorem parse_deepValueTokens : (Sdl.parse (textWith [' '] deepValueTokens)).isOk = false := by decide +kernel

/-- without one of the limits, definitions are written as any others and have no module -/
theorem not_moduleOfText_decorated_deep :
    (¬ ∀ (s : Settings) (ds : List (Definition String)) (tss : List (List Token)) (text plain : List Char), ds ≠ [] →
      (∀ d ∈ ds, d.isDeclared = true ∧ d.WellFormed (isName · = true)) →
      List.Forall₂ (DecoratesDefinition levelLimit) ds tss → Writes Spelled tss.flatten text →
      Writes Spells (ds.flatMap definitionTokens) plain →
      ∃ out, moduleOfText s text = .ok out ∧ moduleOfText s plain = .ok out) ∧
    ¬ ∀ (s : Settings) (ds : List (Definition String)) (tss : List (List Token)) (text plain : List Char)
      (levels : Nat), ds ≠ [] →
      (∀ d ∈ ds, d.isDeclared = true ∧ d.WellFormed (isName · = true) ∧ ∀ t ∈ d.types, t.lists ≤ levelLimit) →
      List.Forall₂ (DecoratesDefinition levels) ds tss → Writes Spelled tss.flatten text →
      Writes Spells (ds.flatMap definitionTokens) plain →
      ∃ out, moduleOfText s text = .ok out ∧ moduleOfText s plain = .ok out := by
  let s : Settings := ⟨"Request", "", "  ", by decide⟩
  constructor
  · intro h
    have hdecorates : List.Forall₂ (DecoratesDefinition levelLimit) deepSchema (deepSchema.map definitionTokens) :=
      List.forall₂_map_right_iff.2 (List.forall₂_same.2 fun d hd =>
        decoratesDefinition_tokens levelLimit (deepSchema_wellFormed d hd).1)
    obtain ⟨out, hout, _⟩ := h s deepSchema _ _ _ (by simp [deepSchema]) deepSchema_wellFormed hdecorates
      (deepSchema_writes.mono fun _ _ => .simple) deepSchema_writes
    obtain ⟨ds, hparse, _⟩ := moduleOfText_eq_ok hout
    obtain ⟨e, he⟩ := document_deepSchema
    rw [Sdl.parse, tokens_of_writes (fun _ _ h => h.reads) deepSchema_writes, he] at hparse
    cases hparse
  · intro h
    have hblank : Separator [' '] := .blank rfl .nil
    have hnamed : ∀ d ∈ [Definition.enum "A" []], d.isDeclared = true ∧ d.WellFormed (isName · = true) := by decide
    have hplain := writes_definitions hblank (by decide) (by simp) hnamed
    have hwrites : Writes Spelled [deepValueTokens].flatten (textWith [' '] deepValueTokens) := by
      rw [List.flatten_cons, List.flatten_nil, List.append_nil]
      exact deepValueTokens_writes.mono fun _ _ => .simple
    obtain ⟨out, hout, _⟩ := h s [.enum "A" []] _ _ _ (levelLimit + 1) (by simp) (by decide)
      deepValueTokens_decorates hwrites hplain
    obtain ⟨ds, hparse, _⟩ := moduleOfText_eq_ok hout
    have hok := parse_deepValueTokens
    rw [hparse] at hok
    cases hok

end SchemaTypings.Workspace
