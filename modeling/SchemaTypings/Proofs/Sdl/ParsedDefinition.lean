/-
Definitions that a text can write are well formed.

One lemma for each rule of the grammar, in the order of the grammar: what does not reach a definition (values,
directives, selections) has to leave a final piece of the tokens only, what does reach it has names and fits.
`wellFormed_of_parse` is the sum: every definition of a parsed text is well formed over names.
-/
import SchemaTypings.Proofs.Sdl.Name
import SchemaTypings.Proofs.Sdl.Yields

namespace SchemaTypings.Sdl.Parser

open SchemaTypings.Schema

variable {N : String → Prop}

/-! ## Types and values -/

theorem typeWith_yields {item : Parser (TypeRef String)} (h : Yields N item (TypeRef.WellFormed N)) :
    Yields N (typeWith item) (TypeRef.WellFormed N) := by
  -- before the mark the type is a list or a name, so that the mark is the only one here
  have hmark : ∀ t : TypeRef String, t.isNonNull = false ∧ t.WellFormed N → Yields N (do
      if ← accept .bang then return .nonNull t else return t) (TypeRef.WellFormed N) := fun t ht =>
    (accept_yields _).bind fun _ _ => .ite (fun _ => .pure ht) fun _ => .pure ht.2
  refine (accept_yields _).bind fun _ _ => .ite (fun _ => ?_) fun _ => ?_
  · exact h.bind fun t ht => (expect_yields _).bind fun _ _ => Yields.bind (.pure ⟨rfl, ht⟩) hmark
  · exact name_yields.bind fun n hn => Yields.bind (.pure ⟨rfl, hn⟩) hmark

theorem typeRef_yields (levels : Nat) : Yields N (typeRef levels) (TypeRef.WellFormed N) := by
  induction levels with
  | zero => exact typeWith_yields (refuse_yields _)
  | succ levels ih => exact typeWith_yields ih

theorem variableValue_yields (constant : Bool) : Yields N (variableValue constant) fun _ => True := by
  refine advance_yields.bind fun _ _ => .ite (fun _ => ?_) fun _ => name_yields.bind fun _ _ => .pure trivial
  refine current_yields.bind fun t _ => ?_
  split
  · exact refuseBack_yields _ _
  · exact refuseBack_yields _ _

theorem valueWith_yields (constant : Bool) {nested : Parser Unit} (h : Yields N nested fun _ => True) :
    Yields N (valueWith constant nested) fun _ => True := by
  refine current_yields.bind fun t _ => ?_
  split
  · exact h
  · exact h
  · exact variableValue_yields constant
  · exact advance_yields
  · exact advance_yields
  · exact advance_yields
  · exact advance_yields
  · exact advance_yields
  · exact unexpected_yields

theorem collection_yields {item : Parser Unit} (h : Yields N item fun _ => True) :
    Yields N (collection item) fun _ => True := by
  refine (isAt_yields _).bind fun _ _ => .ite (fun _ => ?_) fun _ => ?_
  · exact (between_yields _ _ h).bind fun _ _ => .pure trivial
  · have hentry : Yields N (do
        let _ ← name
        expect .colon
        item) fun _ => True := name_yields.bind fun _ _ => (expect_yields _).bind fun _ _ => h
    exact (between_yields _ _ hentry).bind fun _ _ => .pure trivial

theorem value_yields (constant : Bool) (levels : Nat) : Yields N (value constant levels) fun _ => True := by
  induction levels with
  | zero => exact valueWith_yields constant (refuse_yields _)
  | succ levels ih => exact valueWith_yields constant (collection_yields ih)

theorem arguments_yields (constant : Bool) (levels : Nat) : Yields N (arguments constant levels) fun _ => True := by
  have hentry : Yields N (do
      let _ ← name
      expect .colon
      value constant levels) fun _ => True :=
    name_yields.bind fun _ _ => (expect_yields _).bind fun _ _ => value_yields constant levels
  exact (optionalBetween_yields _ _ hentry).bind fun _ _ => .pure trivial

theorem directives_yields (constant : Bool) (levels : Nat) : Yields N (directives constant levels) fun _ => True := by
  have hone : Yields N (directive constant levels) fun _ => True :=
    (expect_yields _).bind fun _ _ => name_yields.bind fun _ _ => arguments_yields constant levels
  exact (whileAt_yields _ hone).bind fun _ _ => .pure trivial

theorem constantDirectives_yields : Yields N constantDirectives fun _ => True := directives_yields _ _

theorem defaultValue_yields : Yields N defaultValue fun _ => True :=
  (accept_yields _).bind fun _ _ => .ite (fun _ => value_yields _ _) fun _ => .pure trivial

/-! ## Operations and fragments -/

theorem fragmentSelection_yields (levels : Nat) {selections : Parser Unit} (h : Yields N selections fun _ => True) :
    Yields N (fragmentSelection levels selections) fun _ => True := by
  refine (acceptKeyword_yields _).bind fun _ _ => .ite (fun _ => ?_) fun _ => ?_
  · exact name_yields.bind fun _ _ => (directives_yields _ _).bind fun _ _ => h
  · refine current_yields.bind fun t _ => ?_
    split
    · exact name_yields.bind fun _ _ => (directives_yields _ _).bind fun _ _ => .pure trivial
    · exact (directives_yields _ _).bind fun _ _ => h

theorem fieldSelection_yields (levels : Nat) {selections : Parser Unit} (h : Yields N selections fun _ => True) :
    Yields N (fieldSelection levels selections) fun _ => True := by
  have hend : Yields N (do
      arguments false levels
      let _ ← directives false levels
      if ← isAt .braceOpen then selections) fun _ => True := by
    refine (arguments_yields _ _).bind fun _ _ => (directives_yields _ _).bind fun _ _ => ?_
    exact (isAt_yields _).bind fun _ _ => .ite (fun _ => h) fun _ => .pure trivial
  refine name_yields.bind fun _ _ => (accept_yields _).bind fun _ _ => .ite (fun _ => ?_) fun _ => hend
  exact name_yields.bind fun _ _ => hend

theorem selectionSet_yields (levels : Nat) : Yields N (selectionSet levels) fun _ => True := by
  induction levels with
  | zero => exact refuse_yields _
  | succ levels ih =>
    have hone : Yields N (selection levels (selectionSet levels)) fun _ => True :=
      (accept_yields _).bind fun _ _ =>
        .ite (fun _ => fragmentSelection_yields levels ih) fun _ => fieldSelection_yields levels ih
    exact (between_yields _ _ hone).bind fun _ _ => .pure trivial

theorem variableDefinition_yields : Yields N variableDefinition fun _ => True := by
  refine description_yields.bind fun _ _ => (expect_yields _).bind fun _ _ => name_yields.bind fun _ _ => ?_
  refine (expect_yields _).bind fun _ _ => (typeRef_yields _).bind fun _ _ => defaultValue_yields.bind fun _ _ => ?_
  exact constantDirectives_yields.bind fun _ _ => .pure trivial

theorem shorthandOperation_yields : Yields N shorthandOperation (Definition.WellFormed N) :=
  (selectionSet_yields _).bind fun _ _ => .pure ⟨by decide, .inl rfl⟩

theorem operation_yields (k : String) : Yields N (operation k) (Definition.WellFormed N) := by
  refine description_yields.bind fun _ _ => (keyword_yields _).bind fun _ _ => current_yields.bind fun t _ => ?_
  have hend : ∀ n : Option String, (∀ x, n = some x → N x) → Yields N (do
      let _ ← optionalBetween .parenOpen .parenClose variableDefinition
      let _ ← directives false levelLimit
      selectionSet levelLimit
      return .other .operationDefinition n []) (Definition.WellFormed N) := by
    intro n hn
    refine (optionalBetween_yields _ _ variableDefinition_yields).bind fun _ _ => ?_
    refine (directives_yields _ _).bind fun _ _ => (selectionSet_yields _).bind fun _ _ => .pure ⟨by decide, ?_⟩
    cases n with
    | none => exact .inl rfl
    | some n => exact ⟨by decide, hn n rfl⟩
  split
  · exact (name_yields.map (Q := fun n => ∀ x, n = some x → N x) (by rintro a ha x ⟨⟩; exact ha)).bind hend
  · exact Yields.bind (.pure (by simp)) hend

theorem fragmentName_yields : Yields N fragmentName N :=
  current_yields.bind fun _ _ => .ite (fun _ => unexpected_yields) fun _ => name_yields

theorem fragment_yields : Yields N fragment (Definition.WellFormed N) := by
  refine description_yields.bind fun _ _ => (keyword_yields _).bind fun _ _ => fragmentName_yields.bind fun n hn => ?_
  refine (keyword_yields _).bind fun _ _ => name_yields.bind fun _ _ => (directives_yields _ _).bind fun _ _ => ?_
  exact (selectionSet_yields _).bind fun _ _ => .pure ⟨by decide, by decide, hn⟩

/-! ## Definitions of types -/

theorem inputValue_yields : Yields N inputValue (Argument.WellFormed N) := by
  refine description_yields.bind fun _ _ => name_yields.bind fun n hn => (expect_yields _).bind fun _ _ => ?_
  refine (typeRef_yields _).bind fun t ht => defaultValue_yields.bind fun _ _ => ?_
  exact constantDirectives_yields.bind fun _ _ => .pure ⟨hn, ht⟩

theorem field_yields {k : RecordKind} (hk : k ≠ .inputObject) : Yields N field (Member.WellFormed N k) := by
  refine description_yields.bind fun _ _ => name_yields.bind fun n hn => ?_
  refine (optionalBetween_yields _ _ inputValue_yields).bind fun args hargs => (expect_yields _).bind fun _ _ => ?_
  refine (typeRef_yields _).bind fun t ht => constantDirectives_yields.bind fun _ _ => ?_
  exact .pure ⟨hk, hn, ht, hargs⟩

theorem inputField_yields : Yields N inputField (Member.WellFormed N .inputObject) :=
  inputValue_yields.bind fun _ ha => .pure ⟨rfl, ha.1, ha.2⟩

theorem members_yields (k : RecordKind) : Yields N (members k) fun ms => ∀ m ∈ ms, m.WellFormed N k := by
  cases k with
  | object => exact optionalBetween_yields _ _ (field_yields (by decide))
  | interface => exact optionalBetween_yields _ _ (field_yields (by decide))
  | inputObject => exact optionalBetween_yields _ _ inputField_yields

theorem interfacesOf_yields (k : RecordKind) : Yields N (interfacesOf k) fun _ => True := by
  have h : Yields N interfaces fun _ => True :=
    (acceptKeyword_yields _).bind fun _ _ =>
      .ite (fun _ => (separated_yields _ name_yields).bind fun _ _ => .pure trivial) fun _ => .pure trivial
  cases k with
  | object => exact h
  | interface => exact h
  | inputObject => exact .pure trivial

/-- a name is no reserved word if its token is not -/
theorem notMem_reservedValues {n : String} (h : isReserved (some (.name n)) = false) : n ∉ reservedValues := by
  simp only [isReserved, Bool.or_eq_false_iff, decide_eq_false_iff_not] at h
  simp [reservedValues, h]

theorem enumValue_yields : Yields N enumValue fun v => N v ∧ v ∉ reservedValues := by
  refine description_yields.bind fun _ _ => ?_
  -- the token that is looked at is the one that is taken as a name
  intro ts v rest hN h
  obtain ⟨t, mid, ht, h⟩ := bind_eq_ok.1 h
  simp only [current, Except.ok.injEq, Prod.mk.injEq] at ht
  obtain ⟨rfl, rfl⟩ := ht
  dsimp only at h
  split_ifs at h with hr
  · obtain ⟨_, _, h, _⟩ := bind_eq_ok.1 h
    simp [refuse] at h
  · obtain ⟨n, mid, hn, h⟩ := bind_eq_ok.1 h
    rw [name_eq_ok hn, List.head?_cons, Bool.not_eq_true] at hr
    obtain ⟨hmid, hnN⟩ := name_yields ts n mid hN hn
    have hend : Yields N (do
        let _ ← constantDirectives
        return n) fun v => N v ∧ v ∉ reservedValues :=
      constantDirectives_yields.bind fun _ _ => .pure ⟨hnN, notMem_reservedValues hr⟩
    obtain ⟨hrest, hv⟩ := hend mid v rest (fun m hm => hN m (hmid.subset hm)) h
    exact ⟨hrest.trans hmid, hv⟩

theorem enumValues_yields : Yields N enumValues fun vs => ∀ v ∈ vs, N v ∧ v ∉ reservedValues :=
  optionalBetween_yields _ _ enumValue_yields

theorem unionMembers_yields : Yields N unionMembers fun _ => True :=
  (accept_yields _).bind fun _ _ =>
    .ite (fun _ => (separated_yields _ name_yields).mono fun _ _ => trivial) fun _ => .pure trivial

theorem operationType_yields : Yields N operationType fun _ => True := by
  refine current_yields.bind fun _ _ => name_yields.bind fun n _ => .ite (fun _ => ?_) fun _ => refuseBack_yields _ _
  exact (expect_yields _).bind fun _ _ => name_yields.bind fun _ _ => .pure trivial

theorem directiveLocation_yields : Yields N directiveLocation fun _ => True :=
  current_yields.bind fun _ _ => name_yields.bind fun _ _ =>
    .ite (fun _ => .pure trivial) fun _ => refuseBack_yields _ _

theorem record_yields (k : RecordKind) : Yields N (record k) (Definition.WellFormed N) := by
  refine description_yields.bind fun _ _ => (keyword_yields _).bind fun _ _ => name_yields.bind fun n hn => ?_
  refine (interfacesOf_yields k).bind fun _ _ => constantDirectives_yields.bind fun _ _ => ?_
  exact (members_yields k).bind fun ms hms => .pure ⟨hn, hms⟩

theorem enum_yields : Yields N enum (Definition.WellFormed N) := by
  refine description_yields.bind fun _ _ => (keyword_yields _).bind fun _ _ => name_yields.bind fun n hn => ?_
  exact constantDirectives_yields.bind fun _ _ => enumValues_yields.bind fun vs hvs => .pure ⟨hn, hvs⟩

theorem scalar_yields : Yields N scalar (Definition.WellFormed N) := by
  refine description_yields.bind fun _ _ => (keyword_yields _).bind fun _ _ => name_yields.bind fun n hn => ?_
  exact constantDirectives_yields.bind fun _ _ => .pure ⟨by decide, by decide, hn⟩

theorem union_yields : Yields N union (Definition.WellFormed N) := by
  refine description_yields.bind fun _ _ => (keyword_yields _).bind fun _ _ => name_yields.bind fun n hn => ?_
  exact constantDirectives_yields.bind fun _ _ => unionMembers_yields.bind fun _ _ => .pure ⟨by decide, by decide, hn⟩

theorem schema_yields : Yields N schema (Definition.WellFormed N) := by
  refine description_yields.bind fun _ _ => (keyword_yields _).bind fun _ _ => ?_
  refine constantDirectives_yields.bind fun _ _ => (someBetween_yields _ _ operationType_yields).bind fun _ _ => ?_
  exact .pure ⟨by decide, .inr (by decide)⟩

theorem directiveDefinition_yields : Yields N directiveDefinition (Definition.WellFormed N) := by
  refine description_yields.bind fun _ _ => (keyword_yields _).bind fun _ _ => (expect_yields _).bind fun _ _ => ?_
  refine name_yields.bind fun n hn => (optionalBetween_yields _ _ inputValue_yields).bind fun _ _ => ?_
  refine constantDirectives_yields.bind fun _ _ => (acceptKeyword_yields _).bind fun _ _ => ?_
  refine (keyword_yields _).bind fun _ _ => (separated_yields _ directiveLocation_yields).bind fun _ _ => ?_
  exact .pure ⟨by decide, by decide, hn⟩

/-! ## Extensions -/

theorem nonempty_yields (adds : Bool) {d : Definition String} (h : d.WellFormed N) :
    Yields N (nonempty adds d) (Definition.WellFormed N) :=
  .ite (fun _ => .pure h) fun _ => unexpected_yields

theorem extendRecord_yields (k : RecordKind) : Yields N (extendRecord k) (Definition.WellFormed N) := by
  refine (keyword_yields _).bind fun _ _ => (keyword_yields _).bind fun _ _ => name_yields.bind fun n hn => ?_
  refine (interfacesOf_yields k).bind fun _ _ => constantDirectives_yields.bind fun _ _ => ?_
  refine (members_yields k).bind fun _ _ => nonempty_yields _ ?_
  cases k <;> exact ⟨by decide, by decide, hn⟩

theorem extendEnum_yields : Yields N extendEnum (Definition.WellFormed N) := by
  refine (keyword_yields _).bind fun _ _ => (keyword_yields _).bind fun _ _ => name_yields.bind fun n hn => ?_
  refine constantDirectives_yields.bind fun _ _ => enumValues_yields.bind fun _ _ => ?_
  exact nonempty_yields _ ⟨by decide, by decide, hn⟩

theorem extendScalar_yields : Yields N extendScalar (Definition.WellFormed N) := by
  refine (keyword_yields _).bind fun _ _ => (keyword_yields _).bind fun _ _ => name_yields.bind fun n hn => ?_
  exact constantDirectives_yields.bind fun _ _ => nonempty_yields _ ⟨by decide, by decide, hn⟩

theorem extendUnion_yields : Yields N extendUnion (Definition.WellFormed N) := by
  refine (keyword_yields _).bind fun _ _ => (keyword_yields _).bind fun _ _ => name_yields.bind fun n hn => ?_
  refine constantDirectives_yields.bind fun _ _ => unionMembers_yields.bind fun _ _ => ?_
  exact nonempty_yields _ ⟨by decide, by decide, hn⟩

theorem extendSchema_yields : Yields N extendSchema (Definition.WellFormed N) := by
  refine (keyword_yields _).bind fun _ _ => (keyword_yields _).bind fun _ _ => ?_
  refine constantDirectives_yields.bind fun _ _ => (optionalBetween_yields _ _ operationType_yields).bind fun _ _ => ?_
  exact nonempty_yields _ ⟨by decide, .inr (by decide)⟩

theorem extendDirective_yields : Yields N extendDirective (Definition.WellFormed N) := by
  refine (keyword_yields _).bind fun _ _ => (keyword_yields _).bind fun _ _ => (expect_yields _).bind fun _ _ => ?_
  refine name_yields.bind fun n hn => constantDirectives_yields.bind fun _ _ => ?_
  exact nonempty_yields _ ⟨by decide, by decide, hn⟩

/-! ## Documents -/

theorem definitionOf?_yields {k : String} {rule : Parser (Definition String)} (h : definitionOf? k = some rule) :
    Yields N rule (Definition.WellFormed N) := by
  unfold definitionOf? at h
  split at h
  all_goals cases h
  · exact schema_yields
  · exact scalar_yields
  · exact record_yields _
  · exact record_yields _
  · exact union_yields
  · exact enum_yields
  · exact record_yields _
  · exact directiveDefinition_yields
  · exact operation_yields _
  · exact operation_yields _
  · exact operation_yields _
  · exact fragment_yields

theorem extensionOf?_yields {k : String} {rule : Parser (Definition String)} (h : extensionOf? k = some rule) :
    Yields N rule (Definition.WellFormed N) := by
  unfold extensionOf? at h
  split at h
  all_goals cases h
  · exact extendSchema_yields
  · exact extendScalar_yields
  · exact extendRecord_yields _
  · exact extendRecord_yields _
  · exact extendUnion_yields
  · exact extendEnum_yields
  · exact extendRecord_yields _
  · exact extendDirective_yields

theorem extension_yields : Yields N extension (Definition.WellFormed N) := by
  refine following_yields.bind fun t _ => ?_
  split
  · split
    · rename_i hrule
      exact extensionOf?_yields hrule
    · exact unexpectedNext_yields _
  · exact unexpectedNext_yields _

theorem describedDefinition_yields : Yields N describedDefinition (Definition.WellFormed N) := by
  refine following_yields.bind fun t _ => ?_
  split
  · exact refuse_yields _
  · split
    · rename_i hrule
      exact definitionOf?_yields hrule
    · exact refuse_yields _
  · exact unexpectedNext_yields _

theorem definition_yields : Yields N definition (Definition.WellFormed N) := by
  refine current_yields.bind fun t _ => ?_
  split
  · exact shorthandOperation_yields
  · exact describedDefinition_yields
  · exact describedDefinition_yields
  · split
    · rename_i hrule
      exact definitionOf?_yields hrule
    · exact .ite (fun _ => extension_yields) fun _ => unexpected_yields
  · exact unexpected_yields

end SchemaTypings.Sdl.Parser

namespace SchemaTypings.Sdl

open SchemaTypings.Schema

/-- a document has definitions, and they are well formed over the names of its tokens -/
theorem wellFormed_of_document {N : String → Prop} {ts : List Token} {ds : List (Definition String)}
    (hN : ∀ n, Token.name n ∈ ts → N n) (h : document ts = .ok ds) : ds ≠ [] ∧ ∀ d ∈ ds, d.WellFormed N := by
  unfold document at h
  split at h
  · simp at h
  · simp at h
  · rename_i us hne hs
    cases Parser.sound_eq_ok hs
    refine ⟨?_, Parser.upToEnd_yields Parser.definition_yields hN h⟩
    rintro rfl
    unfold Parser.upToEnd at h
    split_ifs at h with hnil
    · exact hne (hnil ▸ rfl)
    · split at h
      · simp at h
      · rename_i a mid _
        split_ifs at h
        cases hm : Parser.upToEnd Parser.definition mid <;> simp [hm] at h

/-- **A parsed text is well formed.** It has definitions, and each has names wherever it can be named, types of names,
lists and marks against null at all type positions, members of its kind, and no reserved word for an enum value. -/
theorem wellFormed_of_parse {text : List Char} {ds : List (Definition String)} (h : parse text = .ok ds) :
    ds ≠ [] ∧ ∀ d ∈ ds, d.WellFormed (isName · = true) := by
  have hN : ∀ n, Token.name n ∈ tokens text → isName n = true := fun n => isName_of_mem_tokens
  exact wellFormed_of_document hN (Outcome.mapError_eq_ok.1 h)

end SchemaTypings.Sdl
