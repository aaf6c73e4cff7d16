/-
How the members of records are wrapped.

The wrappers of a line are the names that stand before its angle brackets, and of these a schema gives none: the types
of a line are made of `Maybe` and `ArrayOrValue`, whatever they are called themselves, and a field adds one `Field` or
`Resolve` (`occurrences_memberLine`). So the line of a field has one of them and the line of an input value none, and an
argument has no layer for null but a mark (`isWrapped_memberText`).
-/
import SchemaTypings.Proofs.Text.Occurrence
import SchemaTypings.Proofs.Typings.Shape

namespace SchemaTypings.Typings

open SchemaTypings.Schema SchemaTypings.Text
open SchemaTypings.Sdl (isName isNameCharacter)

variable {w : List Char} {c : Char}

/-! ## Wrappers of types -/

/-- the names that are applied to a type, from the outside in -/
def Applied.applied : Applied → List String
  | .name _ => []
  | .apply n a => n :: a.applied

/-- **Wrappers are counted by name.** A word before a bracket is found where a name that is applied ends with it. -/
theorem Applied.occurrences_text {p : Char → Bool} (hopen : p '<' = false) (hclose : p '>' = false)
    (hw : ∀ c ∈ w, p c = true) {a : Applied} (ha : a.Over p) :
    occurrences (w ++ ['<']) a.text.toList = a.applied.countP fun n => w <:+ n.toList := by
  induction a with
  | name n => exact occurrences_eq_zero (List.mem_append_right w List.mem_cons_self) (notMem_of_all hopen ha)
  | apply n a ih =>
    have hend : '>' ∉ w ++ ['<'] := by
      rw [List.mem_append, List.mem_singleton, not_or]
      exact ⟨notMem_of_all hclose hw, by decide⟩
    have hne : w ++ ['<'] ≠ [] := List.append_ne_nil_of_right_ne_nil _ (List.cons_ne_nil _ _)
    rw [text_apply, occurrences_append_mark (notMem_of_all hopen hw) (notMem_of_all hopen ha.1), occurrences_append_cons hne hend,
      occurrences_nil hne, ih ha.2, applied, List.countP_cons, Nat.add_zero, Nat.add_comm]
    simp only [decide_eq_true_eq]

/-- the text of a type has the characters of its names and its brackets -/
theorem Applied.notMem_text {p : Char → Bool} (hp : p c = false) (hopen : c ≠ '<') (hclose : c ≠ '>') {a : Applied}
    (ha : a.Over p) : c ∉ a.text.toList := by
  induction a with
  | name n => exact notMem_of_all hp ha
  | apply n a ih =>
    simp only [text_apply, List.mem_append, List.mem_cons, List.not_mem_nil, or_false, not_or]
    exact ⟨notMem_of_all hp ha.1, hopen, ih ha.2, hclose⟩

def typeWrappers : List String := ["Maybe", "ArrayOrValue"]

theorem applied_bare_full (t : TypeRef String) :
    (∀ n ∈ (bare t).applied, n ∈ typeWrappers) ∧ ∀ n ∈ (full t).applied, n ∈ typeWrappers := by
  induction t with
  | leaf n => exact ⟨List.forall_mem_nil _, List.forall_mem_singleton.2 List.mem_cons_self⟩
  | list t ih =>
    have hbare : ∀ n ∈ (bare (.list t)).applied, n ∈ typeWrappers := List.forall_mem_cons.2 ⟨by decide, ih.2⟩
    exact ⟨hbare, List.forall_mem_cons.2 ⟨by decide, hbare⟩⟩
  | nonNull t ih => exact ⟨ih.1, ih.1⟩

/-! ## Wrappers of members -/

/-- the wrapper of a field, which tells whether it has arguments; input values have none -/
def fieldWrapper? : Member String → Option String
  | .field _ _ args => some (if args = [] then "Field" else "Resolve")
  | .input _ _ => none

/-- the wrappers of a member, from the left to the right -/
def wrappers (m : Member String) : List String :=
  (fieldWrapper? m).toList ++
    ((full (typeOf m)).applied ++ (argumentsOf m).flatMap fun a => (bare a.type).applied)

/-- a word that no wrapper of types ends with can only be found in the wrapper of a field -/
theorem countP_wrappers (hw : ∀ n ∈ typeWrappers, ¬ w <:+ n.toList) (m : Member String) :
    ((wrappers m).countP fun n => w <:+ n.toList) = (fieldWrapper? m).toList.countP fun n => w <:+ n.toList := by
  have hnone : ∀ {ns : List String}, (∀ n ∈ ns, n ∈ typeWrappers) → (ns.countP fun n => w <:+ n.toList) = 0 :=
    fun hns => List.countP_eq_zero.2 fun n hn => by simpa using hw n (hns n hn)
  have hargs : ∀ n ∈ (argumentsOf m).flatMap (fun a => (bare a.type).applied), n ∈ typeWrappers := by
    intro n hn
    obtain ⟨a, _, hn⟩ := List.mem_flatMap.1 hn
    exact (applied_bare_full a.type).1 n hn
  rw [wrappers, List.countP_append, List.countP_append, hnone (applied_bare_full _).2, hnone hargs,
    Nat.add_zero]

theorem notMem_of_isName {n : String} (h : isName n = true) (hc : isNameCharacter c = false) : c ∉ n.toList :=
  notMem_of_all hc (all_of_isName h)

/-- a name with its mark, up to the colon, has no bracket -/
theorem notMem_named {n : String} (hn : isName n = true) (t : TypeRef String) :
    '<' ∉ (n ++ optionalMark t ++ ":").toList := by
  have hmark : '<' ∉ (optionalMark t).toList := by
    unfold optionalMark
    split_ifs <;> decide
  rw [String.toList_append, String.toList_append, List.mem_append, List.mem_append]
  exact fun h => h.elim (·.elim (notMem_of_isName hn (by decide)) hmark) (by decide)

section

variable (hw : ∀ c ∈ w, isNameCharacter c = true)
include hw

theorem notMem_opening (hc : isNameCharacter c = false) (hne : c ≠ '<') : c ∉ w ++ ['<'] := by
  rw [List.mem_append, List.mem_singleton, not_or]
  exact ⟨notMem_of_all hc hw, hne⟩

/-- a word with a bracket is counted apart before and after a character that no name has -/
theorem occurrences_opening_append (hc : isNameCharacter c = false) (hne : c ≠ '<') (as bs : List Char) :
    occurrences (w ++ ['<']) (as ++ c :: bs) = occurrences (w ++ ['<']) as + occurrences (w ++ ['<']) bs :=
  occurrences_append_cons (List.append_ne_nil_of_right_ne_nil _ (List.cons_ne_nil _ _)) (notMem_opening hw hc hne) as bs

/-- and not at all where there is no bracket -/
theorem occurrences_opening_skip (hc : isNameCharacter c = false) (hne : c ≠ '<') {as : List Char} (has : '<' ∉ as)
    (bs : List Char) : occurrences (w ++ ['<']) (as ++ c :: bs) = occurrences (w ++ ['<']) bs := by
  rw [occurrences_opening_append hw hc hne, occurrences_eq_zero (List.mem_append_right w List.mem_cons_self) has,
    Nat.zero_add]

theorem occurrences_applied {a : Applied} (ha : a.Over isNameCharacter) :
    occurrences (w ++ ['<']) a.text.toList = a.applied.countP fun n => w <:+ n.toList :=
  Applied.occurrences_text (by decide) (by decide) hw ha

/-- the wrappers of an argument are those of its type -/
theorem occurrences_argumentText {a : Argument String} (ha : a.WellFormed (isName · = true)) :
    occurrences (w ++ ['<']) (argumentText a).toList = (bare a.type).applied.countP fun n => w <:+ n.toList := by
  have htext : (argumentText a).toList =
      (a.name ++ optionalMark a.type ++ ":").toList ++ ' ' :: (bare a.type).text.toList := by
    simp [argumentText]
  rw [htext, occurrences_opening_skip hw (by decide) (by decide) (notMem_named ha.1 a.type),
    occurrences_applied hw (over_bare ha.2)]

/-- the wrappers of arguments are those of each of them -/
theorem occurrences_arguments {a : Argument String} {args : List (Argument String)}
    (h : ∀ b ∈ a :: args, b.WellFormed (isName · = true)) (r : List Char) :
    occurrences (w ++ ['<']) ((argumentText a).toList ++
        (args.flatMap (fun b => ", ".toList ++ (argumentText b).toList) ++ '\x7d' :: r)) =
      ((a :: args).flatMap fun b => (bare b.type).applied).countP (fun n => w <:+ n.toList) +
        occurrences (w ++ ['<']) r := by
  induction args generalizing a with
  | nil =>
    rw [List.flatMap_nil, List.nil_append, occurrences_opening_append hw (by decide) (by decide),
      occurrences_argumentText hw (h a List.mem_cons_self), List.flatMap_singleton]
  | cons b args ih =>
    obtain ⟨ha, hrest⟩ := List.forall_mem_cons.1 h
    have htext : ((b :: args).flatMap (fun b => ", ".toList ++ (argumentText b).toList) ++ '\x7d' :: r) =
        ',' :: ([] ++ ' ' :: ((argumentText b).toList ++
          (args.flatMap (fun b => ", ".toList ++ (argumentText b).toList) ++ '\x7d' :: r))) := by
      simp
    rw [htext, occurrences_opening_append hw (by decide) (by decide), occurrences_argumentText hw ha,
      occurrences_opening_skip hw (by decide) (by decide) List.not_mem_nil, ih hrest, List.flatMap_cons (x := a),
      List.countP_append, Nat.add_assoc]

/-- **The wrappers of a member are found in its type,** and nothing else is. -/
theorem occurrences_memberType {k : RecordKind} {m : Member String} (h : m.WellFormed (isName · = true) k) :
    occurrences (w ++ ['<']) (memberType m).toList = (wrappers m).countP fun n => w <:+ n.toList := by
  cases hargs : argumentsOf m with
  | nil =>
    have hwrappers : wrappers m = (plainType m).applied := by
      rw [wrappers, hargs, List.flatMap_nil, List.append_nil]
      cases m with
      | input n t => rfl
      | field n t args =>
        obtain rfl : args = [] := hargs
        rfl
    rw [memberType_of_nil hargs, occurrences_applied hw (over_plainType h), hwrappers]
  | cons a args =>
    rw [eq_field_of_arguments hargs] at h ⊢
    obtain ⟨_, _, ht, hall⟩ := h
    have htext := @toList_memberType m.name (typeOf m) a args []
    rw [List.append_nil] at htext
    have hspace : '<' ∉ [' '] := by decide
    have hlast : '<' ∉ ['>'] := by decide
    rw [htext, occurrences_append_mark (notMem_of_all (by decide) hw) (by decide),
      occurrences_opening_append hw (c := ',') (by decide) (by decide), occurrences_applied hw (over_full ht),
      ← List.singleton_append (x := ' '), occurrences_opening_skip hw (c := '\x7b') (by decide) (by decide) hspace,
      occurrences_arguments hw hall, occurrences_eq_zero (List.mem_append_right w List.mem_cons_self) hlast, wrappers,
      List.countP_append, List.countP_append, fieldWrapper?, if_neg (List.cons_ne_nil a args), Option.toList_some,
      List.countP_singleton]
    simp only [decide_eq_true_eq]
    rfl

/-- **The wrappers of a line are those of its member,** if there is no bracket in the indent. -/
theorem occurrences_memberLine {indent : String} (hindent : '<' ∉ indent.toList) {k : RecordKind} {m : Member String}
    (h : m.WellFormed (isName · = true) k) :
    occurrences (w ++ ['<']) (indent ++ memberText m).toList = (wrappers m).countP fun n => w <:+ n.toList := by
  have htext : (indent ++ memberText m).toList =
      indent.toList ++ (m.name ++ optionalMark (typeOf m) ++ ":").toList ++ ' ' :: ((memberType m).toList ++ [';']) := by
    have hmember := toList_memberText m []
    rw [List.append_nil] at hmember
    rw [String.toList_append, hmember, label]
    simp
  have hbefore : '<' ∉ indent.toList ++ (m.name ++ optionalMark (typeOf m) ++ ":").toList := by
    rw [List.mem_append, not_or]
    exact ⟨hindent, notMem_named (isName_name h) _⟩
  rw [htext, occurrences_opening_skip hw (by decide) (by decide) hbefore,
    occurrences_opening_append hw (by decide) (by decide), occurrences_memberType hw h,
    occurrences_nil (List.append_ne_nil_of_right_ne_nil _ (List.cons_ne_nil _ _)), Nat.add_zero]

end

/-! ## What a line says -/

/-- the text of an argument: its name, a mark if it may be null, and its type without the layer for null, which is not
read from what follows it either -/
structure IsArgument (a : Argument String) (text : List Char) : Prop where
  parts : text = (a.name ++ (if a.type.isNonNull then ": " else "?: ") ++ renderBare a.type).toList
  apart : ',' ∉ text ∧ '\x7d' ∉ text
  bare : ∀ c ∈ [',', '\x7d'], ∀ rest, ¬ "Maybe<".toList <+: (renderBare a.type).toList ++ c :: rest

/-- the line of a member: fields have one wrapper, which tells whether they have arguments, and input values have none -/
structure IsWrapped (indent : String) (k : RecordKind) (m : Member String) (line : List Char) : Prop where
  named : IsMemberLine indent m line
  once : occurrences "Field<".toList line + occurrences "Resolve<".toList line = if k = .inputObject then 0 else 1
  resolver : occurrences "Resolve<".toList line = if argumentsOf m = [] then 0 else 1
  arguments : argumentsOf m ≠ [] → ∃ texts,
    line = (indent ++ m.name ++ colon m ++ " Resolve<" ++ render (typeOf m) ++ ", \x7b").toList ++
      ((", ".toList).intercalate texts ++ "\x7d>;".toList) ∧ List.Forall₂ IsArgument (argumentsOf m) texts

/-- the block of a record has a wrapped line for each member, between its first line and its last -/
def HasWrappedMembers (indent : String) : Definition String → List Char → Prop
  | .record k n ms => fun text =>
    ∃ ls, text.splitOn '\n' = ("export interface " ++ n ++ " \x7b").toList :: ls ++ [['\x7d']] ∧
      List.Forall₂ (IsWrapped indent k) ms ls
  | _ => fun _ => True

theorem wellFormed_of_mem_argumentsOf {N : String → Prop} {k : RecordKind} {m : Member String} (h : m.WellFormed N k)
    {a : Argument String} (ha : a ∈ argumentsOf m) : a.WellFormed N := by
  cases m with
  | field n t args => exact h.2.2.2 a ha
  | input n t => cases ha

theorem memberType_of_ne_nil {m : Member String} (h : argumentsOf m ≠ []) :
    memberType m =
      "Resolve<" ++ render (typeOf m) ++ ", \x7b" ++ ", ".intercalate ((argumentsOf m).map argumentText) ++ "\x7d>" := by
  cases m with
  | input n t => exact absurd rfl h
  | field n t args =>
    cases args with
    | nil => exact absurd rfl h
    | cons a args => rfl

theorem bare_ne_maybe (t : TypeRef String) (a : Applied) : bare t ≠ .apply "Maybe" a := by
  induction t with
  | leaf n => exact nofun
  | list t => exact fun h => absurd (Applied.apply.inj h).1 (by decide)
  | nonNull t ih => exact ih

theorem isArgument_argumentText {a : Argument String} (ha : a.WellFormed (isName · = true)) :
    IsArgument a (argumentText a).toList := by
  have hapart : ∀ c ∈ [',', '\x7d'], c ∉ (argumentText a).toList := by
    intro c hc
    have hother : (isNameCharacter c = false ∧ c ≠ '<' ∧ c ≠ '>') ∧ c ∉ "".toList ∧ c ∉ "?".toList ∧ c ∉ ": ".toList := by
      simp only [List.mem_cons, List.not_mem_nil, or_false] at hc
      rcases hc with rfl | rfl <;> decide
    obtain ⟨⟨hname, hopen, hclose⟩, hnone, hmark, hcolon⟩ := hother
    have hoptional : c ∉ (optionalMark a.type).toList := by
      unfold optionalMark
      split_ifs
      · exact hnone
      · exact hmark
    rw [argumentText, ← text_bare]
    simp only [String.toList_append, List.mem_append, not_or]
    exact ⟨⟨⟨notMem_of_isName ha.1 hname, hoptional⟩, hcolon⟩, Applied.notMem_text hname hopen hclose (over_bare ha.2)⟩
  refine ⟨?_, ⟨hapart ',' (by decide), hapart '\x7d' (by decide)⟩, ?_⟩
  · cases h : a.type.isNonNull <;> simp [argumentText, optionalMark, h]
  · rintro c hc rest ⟨s, hs⟩
    have hends : Ends (c :: rest) := by
      simp only [List.mem_cons, List.not_mem_nil, or_false] at hc
      rcases hc with rfl | rfl <;> exact ⟨rfl, by simp⟩
    rw [← text_bare] at hs
    have htext : (bare a.type).text.toList ++ c :: rest = "Maybe".toList ++ '<' :: s := by simpa using hs.symm
    obtain ⟨b, hb⟩ := eq_apply_of_append (over_bare ha.2) (by decide) hends htext
    exact bare_ne_maybe _ _ hb

theorem isWrapped_memberText {indent : String} (hindent : '<' ∉ indent.toList) {k : RecordKind} {m : Member String}
    (h : m.WellFormed (isName · = true) k) : IsWrapped indent k m (indent ++ memberText m).toList := by
  have hcount : ∀ n ∈ ["Field", "Resolve"], occurrences (n.toList ++ ['<']) (indent ++ memberText m).toList =
      (fieldWrapper? m).toList.countP fun n' => n.toList <:+ n'.toList := by
    intro n hn
    have hname : ∀ n ∈ ["Field", "Resolve"], isName n = true := by decide
    have htypes : ∀ n ∈ ["Field", "Resolve"], ∀ n' ∈ typeWrappers, ¬ n.toList <:+ n'.toList := by decide
    rw [occurrences_memberLine (all_of_isName (hname n hn)) hindent h, countP_wrappers (htypes n hn)]
  have hfield : occurrences "Field<".toList _ = _ := hcount "Field" (by decide)
  have hresolve : occurrences "Resolve<".toList _ = _ := hcount "Resolve" (by decide)
  refine ⟨isMemberLine_memberText indent h, ?_, ?_, ?_⟩
  · rw [hfield, hresolve]
    cases m with
    | input n t => simp [fieldWrapper?, h.1]
    | field n t args =>
      rw [if_neg h.1, fieldWrapper?]
      split_ifs <;> decide
  · rw [hresolve]
    cases m with
    | input n t => rfl
    | field n t args =>
      rw [fieldWrapper?, argumentsOf]
      split_ifs <;> decide
  · intro hargs
    refine ⟨(argumentsOf m).map (String.toList ∘ argumentText), ?_, ?_⟩
    · rw [memberText_eq, memberRest, memberType_of_ne_nil hargs]
      simp [String.toList_intercalate]
    · rw [List.forall₂_map_right_iff, List.forall₂_same]
      exact fun a ha => isArgument_argumentText (wellFormed_of_mem_argumentsOf h ha)

/-- **The members of a declared record are wrapped.** -/
theorem hasWrappedMembers_block {indent : String} (hindent : '\n' ∉ indent.toList) (hopen : '<' ∉ indent.toList)
    {d : Definition String} (hd : d.isDeclared = true ∧ d.WellFormed (isName · = true)) :
    HasWrappedMembers indent d (block indent d) := by
  cases d with
  | record k n ms =>
    refine ⟨ms.map fun m => (indent ++ memberText m).toList, ?_, ?_⟩
    · rw [splitOn_block hindent hd, declarationLines, List.map_append, List.map_cons, List.map_map]
      rfl
    · rw [List.forall₂_map_right_iff, List.forall₂_same]
      exact fun m hm => isWrapped_memberText hopen (hd.2.2 m hm)
  | _ => trivial

end SchemaTypings.Typings
