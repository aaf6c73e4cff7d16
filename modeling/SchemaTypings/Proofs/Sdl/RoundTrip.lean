/-
Schemas written as text and read back.

`moduleOf_written`: a text that writes definitions, with whatever separators between its tokens, is read as just these
definitions, so that its module is the one of the definitions themselves. `writes_definitions` gives every list of
definitions such a text. The limit on lists around each other is needed: `not_moduleOf_written_deep` has a definition
beyond it, written as any other, that is refused.
-/
import SchemaTypings.Proofs.Sdl.Decorated
import SchemaTypings.Proofs.Sdl.Written
import SchemaTypings.Typings.Module

namespace SchemaTypings.Sdl

open SchemaTypings.Schema SchemaTypings.Sdl.Parser SchemaTypings.Typings
open SchemaTypings.Text (TextLike)

/-! ## Texts of definitions -/

/-- how a name or a punctuator is written -/
def spelling : Token → List Char
  | .name n => n.toList
  | .punct p => p.text.toList
  | _ => []

/-- tokens with the same separator between any two -/
def textWith (sep : List Char) : List Token → List Char
  | [] => []
  | [t] => spelling t
  | t :: u :: ts => spelling t ++ sep ++ textWith sep (u :: ts)

theorem writes_textWith {sep : List Char} (hsep : Separator sep) (hne : sep ≠ []) {ts : List Token} (hts : ts ≠ [])
    (h : ∀ t ∈ ts, Spells t (spelling t)) : Writes Spells ts (textWith sep ts) := by
  induction ts with
  | nil => exact absurd rfl hts
  | cons t ts ih =>
    cases ts with
    | nil => exact .last (h t List.mem_cons_self)
    | cons u ts =>
      exact .cons (h t List.mem_cons_self) hsep hne (ih (by simp) fun v hv => h v (List.mem_cons_of_mem t hv))

theorem spells_optionalTokens {opening close : Punct} {items : List (List Token)}
    (h : ∀ us ∈ items, ∀ t ∈ us, Spells t (spelling t)) :
    ∀ t ∈ optionalTokens opening close items, Spells t (spelling t) := by
  intro t ht
  unfold optionalTokens at ht
  split_ifs at ht
  · cases ht
  · rw [List.mem_append, List.mem_cons, List.mem_flatten, List.mem_singleton] at ht
    rcases ht with (rfl | ⟨us, hus, ht⟩) | rfl
    · exact .punct _
    · exact h us hus t ht
    · exact .punct _

theorem spells_typeTokens {u : TypeRef String} (h : u.WellFormed (isName · = true)) :
    ∀ t ∈ typeTokens u, Spells t (spelling t) := by
  induction u with
  | leaf n =>
    rintro t (_ | ⟨_, ⟨⟩⟩)
    exact .name h
  | list u ih =>
    intro t ht
    rw [typeTokens, List.mem_append, List.mem_cons, List.mem_singleton] at ht
    rcases ht with (rfl | ht) | rfl
    · exact .punct _
    · exact ih h t ht
    · exact .punct _
  | nonNull u ih =>
    intro t ht
    rw [typeTokens, List.mem_append, List.mem_singleton] at ht
    rcases ht with ht | rfl
    · exact ih h.2 t ht
    · exact .punct _

theorem spells_argumentTokens {a : Argument String} (h : a.WellFormed (isName · = true)) :
    ∀ t ∈ argumentTokens a, Spells t (spelling t) := by
  rw [argumentTokens]
  exact List.forall_mem_cons.2 ⟨.name h.1, List.forall_mem_cons.2 ⟨.punct _, spells_typeTokens h.2⟩⟩

theorem spells_memberTokens {k : RecordKind} {m : Member String} (h : m.WellFormed (isName · = true) k) :
    ∀ t ∈ memberTokens m, Spells t (spelling t) := by
  cases m with
  | field n t args =>
    obtain ⟨_, hn, ht, hargs⟩ := h
    have harguments : ∀ us ∈ args.map argumentTokens, ∀ t ∈ us, Spells t (spelling t) := by
      intro us hus
      obtain ⟨a, ha, rfl⟩ := List.mem_map.1 hus
      exact spells_argumentTokens (hargs a ha)
    rw [memberTokens, List.cons_append]
    refine List.forall_mem_cons.2 ⟨.name hn, List.forall_mem_append.2 ⟨spells_optionalTokens harguments, ?_⟩⟩
    exact List.forall_mem_cons.2 ⟨.punct _, spells_typeTokens ht⟩
  | input n t => exact spells_argumentTokens (a := ⟨n, t⟩) h.2

theorem spells_definitionTokens {d : Definition String} (h : d.WellFormed (isName · = true)) :
    ∀ t ∈ definitionTokens d, Spells t (spelling t) := by
  cases d with
  | record k n ms =>
    refine List.forall_mem_cons.2 ⟨.name (by cases k <;> rfl), List.forall_mem_cons.2 ⟨.name h.1, ?_⟩⟩
    refine spells_optionalTokens fun us hus => ?_
    obtain ⟨m, hm, rfl⟩ := List.mem_map.1 hus
    exact spells_memberTokens (h.2 m hm)
  | enum n vs =>
    refine List.forall_mem_cons.2 ⟨.name rfl, List.forall_mem_cons.2 ⟨.name h.1, ?_⟩⟩
    refine spells_optionalTokens fun us hus => ?_
    obtain ⟨v, hv, rfl⟩ := List.mem_map.1 hus
    exact List.forall_mem_singleton.2 (.name (h.2 v hv).1)
  | other k n ns => rintro t ⟨⟩

/-- definitions with names have a text, with any separator -/
theorem writes_definitions {sep : List Char} (hsep : Separator sep) (hne : sep ≠ []) {ds : List (Definition String)}
    (hds : ds ≠ []) (hd : ∀ d ∈ ds, d.isDeclared = true ∧ d.WellFormed (isName · = true)) :
    Writes Spells (ds.flatMap definitionTokens) (textWith sep (ds.flatMap definitionTokens)) := by
  refine writes_textWith hsep hne ?_ fun t ht => ?_
  · cases ds with
    | nil => exact absurd rfl hds
    | cons d ds =>
      have hdeclared := (hd d List.mem_cons_self).1
      cases d with
      | record k n ms => simp [definitionTokens]
      | enum n vs => simp [definitionTokens]
      | other k n ns => cases hdeclared
  · obtain ⟨d, hmem, ht⟩ := List.mem_flatMap.1 ht
    exact spells_definitionTokens (hd d hmem).2 t ht

/-! ## Reading back -/

theorem parse_of_document {text : List Char} {ds : List (Definition String)} (h : document (tokens text) = .ok ds) :
    parse text = .ok ds := by
  rw [parse, h]
  rfl

/-- **A written schema has the module of its definitions.** The text of any definitions with names, whatever separates
its tokens, is read as these definitions and no others, and what is emitted is what is emitted for the definitions. -/
theorem moduleOf_written {ds : List (Definition String)} {text : List Char} (hne : ds ≠ [])
    (hd : ∀ d ∈ ds, d.isDeclared = true ∧ d.WellFormed (isName · = true) ∧ ∀ t ∈ d.types, t.lists ≤ levelLimit)
    (hw : Writes Spells (ds.flatMap definitionTokens) text) :
    parse text = .ok ds ∧ ∀ {τ : Type} [TextLike τ] (context : String) (header indent : τ),
      (parse text).map (moduleOf context header indent) =
        .ok (moduleText context header indent (ds.map (·.map .named))) := by
  have hp : parse text = .ok ds := by
    apply parse_of_document
    rw [tokens_of_writes (fun _ _ h => h.reads) hw]
    exact document_definitionTokens hne hd
  refine ⟨hp, fun context header indent => ?_⟩
  rw [hp]
  rfl

/-- a type called like a keyword, with a field called like another, and definitions without bodies around it -/
def keywordSchema : List (Definition String) :=
  [.record .interface "input" [],
   .record .object "implements" [.field "type" (.nonNull (.list (.leaf "Int"))) [⟨"enum", .leaf "ID"⟩]],
   .enum "interface" []]

/-- a separator of all sorts: blanks, a comma, a comment, line ends and a byte order mark -/
def mixedSeparator : List Char := " ,\t#type \x7b\r\n\uFEFF".toList

theorem mixedSeparator_separator : Separator mixedSeparator := by
  have hcomment : Separator ('#' :: "type \x7b".toList ++ '\r' :: ['\n', '\uFEFF']) :=
    .comment (by simp [Text.Line.isEnd]) rfl (.blank rfl (.blank rfl .nil))
  exact .blank (c := ' ') rfl (.blank (c := ',') rfl (.blank (c := '\t') rfl hcomment))

theorem keywordSchema_wellFormed : ∀ d ∈ keywordSchema,
    d.isDeclared = true ∧ d.WellFormed (isName · = true) ∧ ∀ t ∈ d.types, t.lists ≤ levelLimit := by
  decide

theorem keywordSchema_writes :
    Writes Spells (keywordSchema.flatMap definitionTokens)
      (textWith mixedSeparator (keywordSchema.flatMap definitionTokens)) :=
  writes_definitions mixedSeparator_separator (by decide) (by decide) fun d hd =>
    ⟨(keywordSchema_wellFormed d hd).1, (keywordSchema_wellFormed d hd).2.1⟩

theorem moduleOf_written_keywords :
    parse (textWith mixedSeparator (keywordSchema.flatMap definitionTokens)) = .ok keywordSchema ∧
      ∀ context header indent : String,
        (parse (textWith mixedSeparator (keywordSchema.flatMap definitionTokens))).map
          (moduleOf context header indent) =
          .ok (moduleText context header indent (keywordSchema.map (·.map .named))) := by
  obtain ⟨hparse, hmodule⟩ := moduleOf_written (by decide) keywordSchema_wellFormed keywordSchema_writes
  exact ⟨hparse, hmodule⟩

/-! ## The limit -/

theorem step_error {α β : Type} {p : Parser α} {f : α → Parser β} {ts : List Token} {e : Failure}
    (h : p ts = .error e) :
    (p >>= f) ts = .error e := by
  simp only [bind, StateT.bind, h, Except.bind]

/-- a type with more lists around each other than levels is refused -/
theorem typeRef_tooDeep {t : TypeRef String} {levels : Nat} (hl : levels < t.lists) (rest : List Token) :
    ∃ e, typeRef levels (typeTokens t ++ rest) = .error e := by
  induction t generalizing levels rest with
  | leaf n => exact absurd hl (Nat.not_lt_zero _)
  | nonNull t ih => simpa [typeTokens] using ih hl (.punct .bang :: rest)
  | list t ih =>
    have hopen : ∀ us,
        accept .bracketOpen (.punct .bracketOpen :: (typeTokens t ++ us)) = .ok (true, typeTokens t ++ us) :=
      fun us => accept_cons (sound_typeTokens t us)
    rw [typeTokens, List.append_assoc, List.cons_append]
    cases levels with
    | zero => exact ⟨_, step (hopen _) (step_error rfl)⟩
    | succ levels =>
      obtain ⟨e, he⟩ := ih (Nat.lt_of_succ_lt_succ hl) ([.punct .bracketClose] ++ rest)
      exact ⟨e, step (hopen _) (step_error he)⟩

/-- lists around a name -/
def nested : Nat → TypeRef String
  | 0 => .leaf "C"
  | n + 1 => .list (nested n)

theorem nested_lists (n : Nat) : (nested n).lists = n := by
  induction n with
  | zero => rfl
  | succ n ih => simp [nested, TypeRef.lists, ih]

theorem nested_wellFormed (n : Nat) : (nested n).WellFormed (isName · = true) := by
  induction n with
  | zero => decide
  | succ n ih => exact ih

/-- a type with a field of one list more than a document may nest -/
def deepSchema : List (Definition String) := [.record .object "A" [.field "b" (nested (levelLimit + 1)) []]]

theorem deepSchema_wellFormed : ∀ d ∈ deepSchema, d.isDeclared = true ∧ d.WellFormed (isName · = true) := by
  refine List.forall_mem_singleton.2 ⟨rfl, rfl, List.forall_mem_singleton.2 ⟨by decide, rfl, nested_wellFormed _, ?_⟩⟩
  simp

theorem deepSchema_writes :
    Writes Spells (deepSchema.flatMap definitionTokens) (textWith [' '] (deepSchema.flatMap definitionTokens)) :=
  writes_definitions (.blank rfl .nil) (by decide) (by simp [deepSchema]) deepSchema_wellFormed

theorem document_deepSchema : ∃ e, document (deepSchema.flatMap definitionTokens) = .error e := by
  have hdeep : levelLimit < (nested (levelLimit + 1)).lists := by
    rw [nested_lists]
    exact Nat.lt_succ_self _
  obtain ⟨e, he⟩ := typeRef_tooDeep hdeep [.punct .braceClose]
  set t := nested (levelLimit + 1) with ht
  have hnone :
    optionalBetween .parenOpen .parenClose inputValue (.punct .colon :: (typeTokens t ++ [.punct .braceClose])) =
      .ok ([], .punct .colon :: (typeTokens t ++ [.punct .braceClose])) := rfl
  have hfield : field (.name "b" :: .punct .colon :: (typeTokens t ++ [.punct .braceClose])) = .error e :=
    step (description_name _ _) <| step (name_cons rfl) <| step hnone <|
      step (expect_cons (sound_typeTokens _ _)) <| step_error he
  have hmembers : members .object (.punct .braceOpen :: .name "b" :: .punct .colon ::
      (typeTokens t ++ [.punct .braceClose])) = .error e :=
    step (isAt_eq _ _) <| step (expect_cons rfl) <| step_error hfield
  have hrecord : record .object (.name "type" :: .name "A" :: .punct .braceOpen :: .name "b" :: .punct .colon ::
      (typeTokens t ++ [.punct .braceClose])) = .error e :=
    step (description_name _ _) <| step (keyword_cons rfl) <| step (name_cons rfl) <|
      step (interfacesOf_of_ne _ (by simp)) <| step (constantDirectives_of_ne (by simp)) <| step_error hmembers
  have htokens : deepSchema.flatMap definitionTokens = .name "type" :: .name "A" :: .punct .braceOpen :: .name "b" ::
      .punct .colon :: (typeTokens t ++ [.punct .braceClose]) := by
    simp [deepSchema, definitionTokens, memberTokens, optionalTokens, recordKeyword, ← ht]
  refine ⟨e, ?_⟩
  rw [htokens]
  show upToEnd definition _ = .error e
  rw [upToEnd, if_neg (by simp)]
  have hdefinition : definition (.name "type" :: .name "A" :: .punct .braceOpen :: .name "b" :: .punct .colon ::
      (typeTokens t ++ [.punct .braceClose])) = .error e := hrecord
  rw [hdefinition]

/-- definitions beyond the limit are written as any others and are not read back -/
theorem not_moduleOf_written_deep :
    ¬ ∀ (ds : List (Definition String)) (text : List Char), ds ≠ [] →
      (∀ d ∈ ds, d.isDeclared = true ∧ d.WellFormed (isName · = true)) →
      Writes Spells (ds.flatMap definitionTokens) text →
      parse text = .ok ds ∧ ∀ context header indent : String,
        (parse text).map (moduleOf context header indent) =
          .ok (moduleText context header indent (ds.map (·.map .named))) := by
  intro h
  obtain ⟨hp, _⟩ := h deepSchema _ (by simp [deepSchema]) deepSchema_wellFormed deepSchema_writes
  obtain ⟨e, he⟩ := document_deepSchema
  rw [parse, tokens_of_writes (fun _ _ h => h.reads) deepSchema_writes, he] at hp
  cases hp

end SchemaTypings.Sdl
