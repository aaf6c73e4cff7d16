/-
The rules of the grammar are made of few operations.

`Rule` holds of the parsers that are put together of them: the current token and the next, taking a token, refusals and
repetitions, in any order and by any case split on what was made before. `definition_rule`: all rules are of this sort,
so that a fact about every definition needs one case for each operation and none for each rule.
-/
import Mathlib.Tactic
import SchemaTypings.Sdl.Document

namespace SchemaTypings.Sdl.Parser

open SchemaTypings.Schema

/-- parsers that are made of the operations on tokens -/
inductive Rule : {α : Type} → Parser α → Prop where
  | pure {α : Type} (a : α) : Rule (pure a)
  | bind {α β : Type} {p : Parser α} {f : α → Parser β} : Rule p → (∀ a, Rule (f a)) → Rule (p >>= f)
  | current : Rule current
  | following : Rule following
  | advance : Rule advance
  | refuse {α : Type} (c : Cause) : Rule (refuse c : Parser α)
  | refuseBack {α : Type} (back : Nat) (c : Cause) : Rule (refuseBack back c : Parser α)
  | unexpected {α : Type} : Rule (unexpected : Parser α)
  | unexpectedNext (t : Option Token) : Rule (unexpectedNext t)
  | upTo {α : Type} (close : Punct) {item : Parser α} : Rule item → Rule (upTo close item)
  | whileAt {α : Type} (p : Punct) {item : Parser α} : Rule item → Rule (whileAt p item)

variable {α β : Type}

theorem Rule.ite {c : Prop} [Decidable c] {p q : Parser α} (hp : Rule p) (hq : Rule q) : Rule (if c then p else q) := by
  split_ifs
  · exact hp
  · exact hq

theorem Rule.map {p : Parser α} (hp : Rule p) (f : α → β) : Rule (f <$> p) := by
  rw [map_eq_pure_bind]
  exact hp.bind fun a => .pure (f a)

/-! ## Single tokens -/

theorem isAt_rule (p : Punct) : Rule (isAt p) := Rule.current.bind fun _ => .pure _

theorem accept_rule (p : Punct) : Rule (accept p) :=
  (isAt_rule p).bind fun _ => .ite (Rule.advance.bind fun _ => .pure _) (.pure _)

theorem expect_rule (p : Punct) : Rule (expect p) :=
  (accept_rule p).bind fun _ => .ite (.pure _) (Rule.current.bind fun _ => .refuse _)

theorem name_rule : Rule name := by
  refine Rule.current.bind fun t => ?_
  split
  · exact Rule.advance.bind fun _ => .pure _
  · exact .refuse _

theorem acceptKeyword_rule (k : String) : Rule (acceptKeyword k) :=
  Rule.current.bind fun _ => .ite (Rule.advance.bind fun _ => .pure _) (.pure _)

theorem keyword_rule (k : String) : Rule (keyword k) :=
  (acceptKeyword_rule k).bind fun _ => .ite (.pure _) (Rule.current.bind fun _ => .refuse _)

theorem description_rule : Rule description := by
  refine Rule.current.bind fun t => ?_
  split
  · exact .advance
  · exact .advance
  · exact .pure _

/-! ## Repetitions -/

/-- an item, which has to take a token, and what comes after it -/
def itemThen (item : Parser α) (next : α → List Token → Except Failure β) (ts : List Token) : Except Failure β :=
  (item ts).bind fun r => if r.2.length < ts.length then next r.1 r.2 else .error ⟨.unexpected ts.head?, ts.length⟩

theorem upTo_eq (close : Punct) (item : Parser α) (ts : List Token) :
    upTo close item ts = if ts.head? = some (.punct close) then (sound ts.tail).map ([], ·)
      else itemThen item (fun a rest => (upTo close item rest).map fun r => (a :: r.1, r.2)) ts := by
  rw [upTo, itemThen]
  cases item ts with
  | error e => rfl
  | ok r => rfl

theorem whileAt_eq (p : Punct) (item : Parser α) (ts : List Token) :
    whileAt p item ts = if ts.head? = some (.punct p) then
        itemThen item (fun a rest => (whileAt p item rest).map fun r => (a :: r.1, r.2)) ts
      else .ok ([], ts) := by
  rw [whileAt, itemThen]
  cases item ts with
  | error e => rfl
  | ok r => rfl

theorem upToEnd_eq (item : Parser α) (ts : List Token) :
    upToEnd item ts = if ts = [] then .ok []
      else itemThen item (fun a rest => (upToEnd item rest).map (a :: ·)) ts := by
  rw [upToEnd, itemThen]
  cases item ts with
  | error e => rfl
  | ok r => rfl

theorem between_rule (opening close : Punct) {item : Parser α} (h : Rule item) : Rule (between opening close item) :=
  (expect_rule opening).bind fun _ => .upTo close h

theorem someBetween_rule (opening close : Punct) {item : Parser α} (h : Rule item) :
    Rule (someBetween opening close item) :=
  (expect_rule opening).bind fun _ => h.bind fun _ => (Rule.upTo close h).bind fun _ => .pure _

theorem optionalBetween_rule (opening close : Punct) {item : Parser α} (h : Rule item) :
    Rule (optionalBetween opening close item) :=
  (isAt_rule opening).bind fun _ => .ite (someBetween_rule opening close h) (.pure _)

theorem separated_rule (p : Punct) {item : Parser α} (h : Rule item) : Rule (separated p item) :=
  have hnext : Rule (do advance; item) := Rule.advance.bind fun _ => h
  (accept_rule p).bind fun _ => h.bind fun _ => (Rule.whileAt p hnext).bind fun _ => .pure _

/-! ## Types and values -/

theorem typeWith_rule {item : Parser (TypeRef String)} (h : Rule item) : Rule (typeWith item) := by
  have hmark : ∀ t : TypeRef String, Rule (do if ← accept .bang then return .nonNull t else return t) := fun t =>
    (accept_rule _).bind fun _ => .ite (.pure _) (.pure _)
  refine (accept_rule _).bind fun _ => .ite ?_ ?_
  · exact h.bind fun t => (expect_rule _).bind fun _ => (Rule.pure _).bind hmark
  · exact name_rule.bind fun n => (Rule.pure _).bind hmark

theorem typeRef_rule (levels : Nat) : Rule (typeRef levels) := by
  induction levels with
  | zero => exact typeWith_rule (.refuse _)
  | succ levels ih => exact typeWith_rule ih

theorem variableValue_rule (constant : Bool) : Rule (variableValue constant) := by
  refine Rule.advance.bind fun _ => .ite ?_ (name_rule.bind fun _ => .pure _)
  refine Rule.current.bind fun t => ?_
  split
  · exact .refuseBack _ _
  · exact .refuseBack _ _

theorem valueWith_rule (constant : Bool) {nested : Parser Unit} (h : Rule nested) :
    Rule (valueWith constant nested) := by
  refine Rule.current.bind fun t => ?_
  split
  · exact h
  · exact h
  · exact variableValue_rule constant
  · exact .advance
  · exact .advance
  · exact .advance
  · exact .advance
  · exact .advance
  · exact .unexpected

/-- a name, a colon and a value -/
theorem entry_rule {item : Parser Unit} (h : Rule item) : Rule (do let _ ← name; expect .colon; item) :=
  name_rule.bind fun _ => (expect_rule _).bind fun _ => h

theorem collection_rule {item : Parser Unit} (h : Rule item) : Rule (collection item) := by
  refine (isAt_rule _).bind fun _ => .ite ?_ ?_
  · exact (between_rule _ _ h).bind fun _ => .pure _
  · exact (between_rule _ _ (entry_rule h)).bind fun _ => .pure _

theorem value_rule (constant : Bool) (levels : Nat) : Rule (value constant levels) := by
  induction levels with
  | zero => exact valueWith_rule constant (.refuse _)
  | succ levels ih => exact valueWith_rule constant (collection_rule ih)

theorem arguments_rule (constant : Bool) (levels : Nat) : Rule (arguments constant levels) :=
  (optionalBetween_rule _ _ (entry_rule (value_rule constant levels))).bind fun _ => .pure _

theorem directives_rule (constant : Bool) (levels : Nat) : Rule (directives constant levels) := by
  have hone : Rule (directive constant levels) :=
    (expect_rule _).bind fun _ => name_rule.bind fun _ => arguments_rule constant levels
  exact (Rule.whileAt _ hone).bind fun _ => .pure _

theorem constantDirectives_rule : Rule constantDirectives := directives_rule _ _

theorem defaultValue_rule : Rule defaultValue :=
  (accept_rule _).bind fun _ => .ite (value_rule _ _) (.pure _)

/-! ## Operations and fragments -/

theorem fragmentSelection_rule (levels : Nat) {selections : Parser Unit} (h : Rule selections) :
    Rule (fragmentSelection levels selections) := by
  refine (acceptKeyword_rule _).bind fun _ => .ite ?_ ?_
  · exact name_rule.bind fun _ => (directives_rule _ _).bind fun _ => h
  · refine Rule.current.bind fun t => ?_
    split
    · exact name_rule.bind fun _ => (directives_rule _ _).bind fun _ => .pure _
    · exact (directives_rule _ _).bind fun _ => h

theorem fieldSelection_rule (levels : Nat) {selections : Parser Unit} (h : Rule selections) :
    Rule (fieldSelection levels selections) := by
  have hend : Rule (do
      arguments false levels
      let _ ← directives false levels
      if ← isAt .braceOpen then selections) := by
    refine (arguments_rule _ _).bind fun _ => (directives_rule _ _).bind fun _ => ?_
    exact (isAt_rule _).bind fun _ => .ite h (.pure _)
  exact name_rule.bind fun _ => (accept_rule _).bind fun _ => .ite (name_rule.bind fun _ => hend) hend

theorem selectionSet_rule (levels : Nat) : Rule (selectionSet levels) := by
  induction levels with
  | zero => exact .refuse _
  | succ levels ih =>
    have hone : Rule (selection levels (selectionSet levels)) :=
      (accept_rule _).bind fun _ => .ite (fragmentSelection_rule levels ih) (fieldSelection_rule levels ih)
    exact (between_rule _ _ hone).bind fun _ => .pure _

theorem variableDefinition_rule : Rule variableDefinition := by
  refine description_rule.bind fun _ => (expect_rule _).bind fun _ => name_rule.bind fun _ => ?_
  refine (expect_rule _).bind fun _ => (typeRef_rule _).bind fun _ => defaultValue_rule.bind fun _ => ?_
  exact constantDirectives_rule.bind fun _ => .pure _

theorem shorthandOperation_rule : Rule shorthandOperation := (selectionSet_rule _).bind fun _ => .pure _

theorem operation_rule (k : String) : Rule (operation k) := by
  refine description_rule.bind fun _ => (keyword_rule _).bind fun _ => Rule.current.bind fun t => ?_
  have hend : ∀ n : Option String, @Rule (Definition String) (do
      let _ ← optionalBetween .parenOpen .parenClose variableDefinition
      let _ ← directives false levelLimit
      selectionSet levelLimit
      return .other .operationDefinition n []) := by
    intro n
    refine (optionalBetween_rule _ _ variableDefinition_rule).bind fun _ => (directives_rule _ _).bind fun _ => ?_
    exact (selectionSet_rule _).bind fun _ => .pure _
  split
  · exact (name_rule.map _).bind hend
  · exact (Rule.pure _).bind hend

theorem fragmentName_rule : Rule fragmentName := Rule.current.bind fun _ => .ite .unexpected name_rule

theorem fragment_rule : Rule fragment := by
  refine description_rule.bind fun _ => (keyword_rule _).bind fun _ => fragmentName_rule.bind fun n => ?_
  refine (keyword_rule _).bind fun _ => name_rule.bind fun _ => (directives_rule _ _).bind fun _ => ?_
  exact (selectionSet_rule _).bind fun _ => .pure _

/-! ## Definitions of types -/

theorem inputValue_rule : Rule inputValue := by
  refine description_rule.bind fun _ => name_rule.bind fun n => (expect_rule _).bind fun _ => ?_
  refine (typeRef_rule _).bind fun t => defaultValue_rule.bind fun _ => ?_
  exact constantDirectives_rule.bind fun _ => .pure _

theorem field_rule : Rule field := by
  refine description_rule.bind fun _ => name_rule.bind fun n => ?_
  refine (optionalBetween_rule _ _ inputValue_rule).bind fun args => (expect_rule _).bind fun _ => ?_
  exact (typeRef_rule _).bind fun t => constantDirectives_rule.bind fun _ => .pure _

theorem inputField_rule : Rule inputField := inputValue_rule.bind fun _ => .pure _

theorem members_rule (k : RecordKind) : Rule (members k) := by
  cases k with
  | object => exact optionalBetween_rule _ _ field_rule
  | interface => exact optionalBetween_rule _ _ field_rule
  | inputObject => exact optionalBetween_rule _ _ inputField_rule

theorem interfacesOf_rule (k : RecordKind) : Rule (interfacesOf k) := by
  have h : Rule interfaces :=
    (acceptKeyword_rule _).bind fun _ => .ite ((separated_rule _ name_rule).bind fun _ => .pure _) (.pure _)
  cases k with
  | object => exact h
  | interface => exact h
  | inputObject => exact .pure _

theorem enumValue_rule : Rule enumValue := by
  have hend : ∀ n : String, Rule (do let _ ← constantDirectives; return n) := fun n =>
    constantDirectives_rule.bind fun _ => .pure n
  refine description_rule.bind fun _ => Rule.current.bind fun t => .ite ?_ ?_
  · exact (Rule.refuse _).bind hend
  · exact name_rule.bind hend

theorem enumValues_rule : Rule enumValues := optionalBetween_rule _ _ enumValue_rule

theorem unionMembers_rule : Rule unionMembers :=
  (accept_rule _).bind fun _ => .ite (separated_rule _ name_rule) (.pure _)

theorem operationType_rule : Rule operationType := by
  refine Rule.current.bind fun _ => name_rule.bind fun n => .ite ?_ (.refuseBack _ _)
  exact (expect_rule _).bind fun _ => name_rule.bind fun _ => .pure _

theorem directiveLocation_rule : Rule directiveLocation :=
  Rule.current.bind fun _ => name_rule.bind fun _ => .ite (.pure _) (.refuseBack _ _)

theorem record_rule (k : RecordKind) : Rule (record k) := by
  refine description_rule.bind fun _ => (keyword_rule _).bind fun _ => name_rule.bind fun n => ?_
  refine (interfacesOf_rule k).bind fun _ => constantDirectives_rule.bind fun _ => ?_
  exact (members_rule k).bind fun ms => .pure _

theorem enum_rule : Rule enum := by
  refine description_rule.bind fun _ => (keyword_rule _).bind fun _ => name_rule.bind fun n => ?_
  exact constantDirectives_rule.bind fun _ => enumValues_rule.bind fun vs => .pure _

theorem scalar_rule : Rule scalar := by
  refine description_rule.bind fun _ => (keyword_rule _).bind fun _ => name_rule.bind fun n => ?_
  exact constantDirectives_rule.bind fun _ => .pure _

theorem union_rule : Rule union := by
  refine description_rule.bind fun _ => (keyword_rule _).bind fun _ => name_rule.bind fun n => ?_
  exact constantDirectives_rule.bind fun _ => unionMembers_rule.bind fun _ => .pure _

theorem schema_rule : Rule schema := by
  refine description_rule.bind fun _ => (keyword_rule _).bind fun _ => constantDirectives_rule.bind fun _ => ?_
  exact (someBetween_rule _ _ operationType_rule).bind fun _ => .pure _

theorem directiveDefinition_rule : Rule directiveDefinition := by
  refine description_rule.bind fun _ => (keyword_rule _).bind fun _ => (expect_rule _).bind fun _ => ?_
  refine name_rule.bind fun n => (optionalBetween_rule _ _ inputValue_rule).bind fun _ => ?_
  refine constantDirectives_rule.bind fun _ => (acceptKeyword_rule _).bind fun _ => (keyword_rule _).bind fun _ => ?_
  exact (separated_rule _ directiveLocation_rule).bind fun _ => .pure _

/-! ## Extensions -/

theorem nonempty_rule (adds : Bool) (d : Definition String) : Rule (nonempty adds d) := .ite (.pure d) .unexpected

theorem extendRecord_rule (k : RecordKind) : Rule (extendRecord k) := by
  refine (keyword_rule _).bind fun _ => (keyword_rule _).bind fun _ => name_rule.bind fun n => ?_
  refine (interfacesOf_rule k).bind fun _ => constantDirectives_rule.bind fun _ => ?_
  exact (members_rule k).bind fun _ => nonempty_rule _ _

theorem extendEnum_rule : Rule extendEnum := by
  refine (keyword_rule _).bind fun _ => (keyword_rule _).bind fun _ => name_rule.bind fun n => ?_
  exact constantDirectives_rule.bind fun _ => enumValues_rule.bind fun _ => nonempty_rule _ _

theorem extendScalar_rule : Rule extendScalar := by
  refine (keyword_rule _).bind fun _ => (keyword_rule _).bind fun _ => name_rule.bind fun n => ?_
  exact constantDirectives_rule.bind fun _ => nonempty_rule _ _

theorem extendUnion_rule : Rule extendUnion := by
  refine (keyword_rule _).bind fun _ => (keyword_rule _).bind fun _ => name_rule.bind fun n => ?_
  exact constantDirectives_rule.bind fun _ => unionMembers_rule.bind fun _ => nonempty_rule _ _

theorem extendSchema_rule : Rule extendSchema := by
  refine (keyword_rule _).bind fun _ => (keyword_rule _).bind fun _ => constantDirectives_rule.bind fun _ => ?_
  exact (optionalBetween_rule _ _ operationType_rule).bind fun _ => nonempty_rule _ _

theorem extendDirective_rule : Rule extendDirective := by
  refine (keyword_rule _).bind fun _ => (keyword_rule _).bind fun _ => (expect_rule _).bind fun _ => ?_
  exact name_rule.bind fun n => constantDirectives_rule.bind fun _ => nonempty_rule _ _

/-! ## Documents -/

theorem definitionOf?_rule {k : String} {rule : Parser (Definition String)} (h : definitionOf? k = some rule) :
    Rule rule := by
  unfold definitionOf? at h
  split at h
  all_goals cases h
  · exact schema_rule
  · exact scalar_rule
  · exact record_rule _
  · exact record_rule _
  · exact union_rule
  · exact enum_rule
  · exact record_rule _
  · exact directiveDefinition_rule
  · exact operation_rule _
  · exact operation_rule _
  · exact operation_rule _
  · exact fragment_rule

theorem extensionOf?_rule {k : String} {rule : Parser (Definition String)} (h : extensionOf? k = some rule) :
    Rule rule := by
  unfold extensionOf? at h
  split at h
  all_goals cases h
  · exact extendSchema_rule
  · exact extendScalar_rule
  · exact extendRecord_rule _
  · exact extendRecord_rule _
  · exact extendUnion_rule
  · exact extendEnum_rule
  · exact extendRecord_rule _
  · exact extendDirective_rule

theorem extension_rule : Rule extension := by
  refine Rule.following.bind fun t => ?_
  split
  · split
    · next hrule => exact extensionOf?_rule hrule
    · exact .unexpectedNext _
  · exact .unexpectedNext _

theorem describedDefinition_rule : Rule describedDefinition := by
  refine Rule.following.bind fun t => ?_
  split
  · exact .refuse _
  · split
    · next hrule => exact definitionOf?_rule hrule
    · exact .refuse _
  · exact .unexpectedNext _

/-- **Every definition is read by the operations on tokens.** -/
theorem definition_rule : Rule definition := by
  refine Rule.current.bind fun t => ?_
  split
  · exact shorthandOperation_rule
  · exact describedDefinition_rule
  · exact describedDefinition_rule
  · split
    · next hrule => exact definitionOf?_rule hrule
    · exact .ite extension_rule .unexpected
  · exact .unexpected

end SchemaTypings.Sdl.Parser
