/-
The layers of a type in its text.

The text of a type has one wrapper for null for each leaf and each list that no mark against null is directly around, and
one wrapper of lists for each list, whatever the leaf is called (`count_applied`). No wrapper for null is directly around
another one (`isChain_applied`), and the outermost wrapper is one for null just if the type has no mark, so that the mark
of a member says the same as the text of its type (`maybe_prefix_iff`). All brackets are those of wrappers, and so they
are balanced (`balanced_text`). `render_layers` puts this together.
-/
import SchemaTypings.Proofs.Schema.WellFormed
import SchemaTypings.Proofs.Typings.Wrapping

namespace SchemaTypings.Schema.TypeRef

variable {α : Type}

/-- number of leaves and lists of a type with no mark against null directly around them; `marked` says whether there is
one around the type -/
def nullables (marked : Bool) : TypeRef α → Nat
  | .leaf _ => if marked then 0 else 1
  | .list t => (if marked then 0 else 1) + t.nullables false
  | .nonNull t => t.nullables true

end SchemaTypings.Schema.TypeRef

namespace SchemaTypings.Typings

open SchemaTypings.Schema SchemaTypings.Text

variable {p : Char → Bool} {w v cs : List Char} {a : Applied}

/-! ## Brackets -/

/-- angle brackets are balanced: as many are closed as are opened, and never more of them before any place -/
structure Balanced (cs : List Char) : Prop where
  total : cs.count '<' = cs.count '>'
  prefixes : ∀ q, q <+: cs → q.count '>' ≤ q.count '<'

theorem balanced_of_notMem (hopen : '<' ∉ cs) (hclose : '>' ∉ cs) : Balanced cs where
  total := by rw [List.count_eq_zero.2 hopen, List.count_eq_zero.2 hclose]
  prefixes q hq := by
    rw [List.count_eq_zero.2 fun h => hclose (hq.subset h)]
    exact Nat.zero_le _

/-- a name applied to a balanced text is balanced -/
theorem Balanced.apply (hopen : '<' ∉ w) (hclose : '>' ∉ w) (h : Balanced cs) : Balanced (w ++ '<' :: (cs ++ ['>'])) where
  total := by
    simp only [List.count_append, List.count_cons, List.count_nil, List.count_eq_zero.2 hopen, List.count_eq_zero.2 hclose,
      h.total]
    simp
  prefixes q hq := by
    have hname := balanced_of_notMem hopen hclose
    rcases List.prefix_or_prefix_of_prefix hq (List.prefix_append w _) with hbefore | ⟨q, rfl⟩
    · exact hname.prefixes q hbefore
    · have htail : q <+: '<' :: (cs ++ ['>']) := (List.prefix_append_right_inj w).1 hq
      rw [List.count_append, List.count_append, ← hname.total]
      rcases List.prefix_cons_iff.1 htail with rfl | ⟨q, rfl, hinner⟩
      · simp
      · rcases List.prefix_concat_iff.1 hinner with rfl | hinner
        · simp [h.total]
        · have hle := h.prefixes q hinner
          simp
          omega

/-- **The brackets of a type are balanced.** -/
theorem balanced_text (hopen : p '<' = false) (hclose : p '>' = false) (ha : a.Over p) : Balanced a.text.toList := by
  induction a with
  | name n => exact balanced_of_notMem (notMem_of_all hopen ha) (notMem_of_all hclose ha)
  | apply n a ih =>
    rw [Applied.text_apply]
    exact (ih ha.2).apply (notMem_of_all hopen ha.1) (notMem_of_all hclose ha.1)

/-! ## Wrappers -/

/-- a text starts with a word and a bracket if the word is the name that is applied first -/
theorem opening_prefix_iff (hopen : p '<' = false) (hw : '<' ∉ w) (ha : a.Over p) :
    w ++ ['<'] <+: a.text.toList ↔ ∃ n ∈ a.applied.head?, w = n.toList := by
  cases a with
  | name n =>
    refine iff_of_false (fun h => ?_) (fun ⟨_, hn, _⟩ => nomatch hn)
    exact notMem_of_all hopen ha (h.subset (List.mem_append_right w List.mem_cons_self))
  | apply n a =>
    rw [Applied.text_apply, prefix_mark_iff hw (notMem_of_all hopen ha.1)]
    simp [Applied.applied]

/-- **Names next to each other.** Two words with their brackets are found where a name that ends with the first is applied
to one that is the second, and nowhere if there is no such place. -/
theorem occurrences_pair (hopen : p '<' = false) (hclose : p '>' = false) (hw : ∀ c ∈ w, p c = true)
    (hv : ∀ c ∈ v, p c = true) (ha : a.Over p)
    (h : a.applied.IsChain fun m n => ¬(w <:+ m.toList ∧ v = n.toList)) :
    occurrences (w ++ '<' :: (v ++ ['<'])) a.text.toList = 0 := by
  induction a with
  | name n =>
    exact occurrences_eq_zero (List.mem_append_right w List.mem_cons_self) (notMem_of_all hopen ha)
  | apply n a ih =>
    obtain ⟨hnext, hrest⟩ := List.isChain_cons.1 h
    have hend : '>' ∉ v ++ ['<'] := by
      rw [List.mem_append, List.mem_singleton, not_or]
      exact ⟨notMem_of_all hclose hv, by decide⟩
    have hword : '>' ∉ w ++ '<' :: (v ++ ['<']) := by
      rw [List.mem_append, List.mem_cons, not_or, not_or]
      exact ⟨notMem_of_all hclose hw, by decide, hend⟩
    have hne : w ++ '<' :: (v ++ ['<']) ≠ [] := List.append_ne_nil_of_right_ne_nil _ (List.cons_ne_nil _ _)
    have hpair : ¬(w <:+ n.toList ∧ v ++ ['<'] <+: a.text.toList ++ ['>']) := by
      rintro ⟨hsuffix, hprefix⟩
      rw [prefix_append_cons_iff hend, opening_prefix_iff hopen (notMem_of_all hopen hv) ha.2] at hprefix
      obtain ⟨m, hm, rfl⟩ := hprefix
      exact hnext m hm ⟨hsuffix, rfl⟩
    rw [Applied.text_apply, occurrences_append_inner (notMem_of_all hopen hw) (notMem_of_all hopen ha.1), if_neg hpair,
      occurrences_append_cons hne hword, occurrences_nil hne, ih ha.2 hrest]

/-- wrappers of types are found by their names -/
theorem occurrences_wrapper {n : String} (hn : n ∈ typeWrappers) (ha : a.Over isPlain)
    (hall : ∀ m ∈ a.applied, m ∈ typeWrappers) : occurrences (n.toList ++ ['<']) a.text.toList = a.applied.count n := by
  have hplain : ∀ n ∈ typeWrappers, n.toList.all isPlain = true := by decide
  have hsuffix : ∀ n ∈ typeWrappers, ∀ m ∈ typeWrappers, n.toList <:+ m.toList ↔ m = n := by decide
  rw [Applied.occurrences_text (by decide) (by decide) (List.all_eq_true.1 (hplain n hn)) ha, List.count_eq_countP]
  refine List.countP_congr fun m hm => ?_
  simpa using hsuffix n hn m (hall m hm)

/-- **Wrappers are the layers of the type,** one for one. -/
theorem count_applied (t : TypeRef String) :
    ((bare t).applied.count "Maybe" = t.nullables true ∧ (full t).applied.count "Maybe" = t.nullables false) ∧
      (bare t).applied.count "ArrayOrValue" = t.lists ∧ (full t).applied.count "ArrayOrValue" = t.lists := by
  induction t with
  | leaf n => exact ⟨⟨rfl, rfl⟩, rfl, rfl⟩
  | list t ih =>
    obtain ⟨⟨_, hmaybe⟩, _, harray⟩ := ih
    simp [bare, full, Applied.applied, TypeRef.nullables, TypeRef.lists, hmaybe, harray, Nat.add_comm]
  | nonNull t ih => exact ⟨⟨ih.1.1, ih.1.1⟩, ih.2.1, ih.2.1⟩

/-- no wrapper for null is directly around another one -/
theorem isChain_applied (t : TypeRef String) :
    ((bare t).applied.IsChain fun m n => ¬("Maybe".toList <:+ m.toList ∧ "Maybe".toList = n.toList)) ∧
      (full t).applied.IsChain fun m n => ¬("Maybe".toList <:+ m.toList ∧ "Maybe".toList = n.toList) := by
  have harray : ¬ "Maybe".toList <:+ "ArrayOrValue".toList := by decide
  have hnext : "Maybe".toList ≠ "ArrayOrValue".toList := by decide
  induction t with
  | leaf n => exact ⟨.nil, .singleton _⟩
  | list t ih =>
    have hbare := List.isChain_cons.2 ⟨fun n _ h => harray h.1, ih.2⟩
    exact ⟨hbare, List.isChain_cons_cons.2 ⟨fun h => hnext h.2, hbare⟩⟩
  | nonNull t ih => exact ⟨ih.1, ih.1⟩

/-- **The outermost wrapper** of a type is that for null just if the type has no mark. -/
theorem maybe_prefix_iff {t : TypeRef String} (h : (full t).Over isPlain) :
    "Maybe<".toList <+: (render t).toList ↔ t.isNonNull = false := by
  have hprefix : "Maybe".toList ++ ['<'] <+: (full t).text.toList ↔ _ := opening_prefix_iff (by decide) (by decide) h
  rw [text_full] at hprefix
  refine hprefix.trans ?_
  cases hmark : t.isNonNull with
  | false =>
    have hfull : full t = .apply "Maybe" (bare t) := by rw [full_eq, hmark]; rfl
    exact iff_of_true ⟨"Maybe", by rw [hfull]; rfl, rfl⟩ rfl
  | true =>
    have hfull : full t = bare t := by rw [full_eq, hmark]; rfl
    refine iff_of_false ?_ nofun
    rintro ⟨n, hn, hname⟩
    obtain rfl := String.toList_inj.1 hname
    cases hbare : bare t with
    | name m =>
      rw [hfull, hbare] at hn
      cases hn
    | apply m a =>
      rw [hfull, hbare] at hn
      obtain rfl : m = "Maybe" := Option.some.inj hn
      exact bare_ne_maybe t a hbare

/-- **Layers are rendered one for one.** In the text of a type there is a wrapper for null for each leaf or list with no
mark directly around it, and a wrapper of lists for each list; brackets are balanced; no wrapper for null is directly
around another one; and a member has a mark just if the text of its type starts with the wrapper for null. -/
theorem render_layers {t : TypeRef String} (h : Bracketless t.leafOf) :
    occurrences "Maybe<".toList (render t).toList = t.nullables false ∧
      occurrences "ArrayOrValue<".toList (render t).toList = t.lists ∧
      Balanced (render t).toList ∧ occurrences "Maybe<Maybe<".toList (render t).toList = 0 ∧
      ∀ m : Member String, typeOf m = t → memberText m =
        m.name ++ (if "Maybe<".toList <+: (render t).toList then "?" else "") ++ ": " ++ memberType m ++ ";" := by
  obtain ⟨_, hover⟩ := over_isPlain h
  have hwrappers := (applied_bare_full t).2
  obtain ⟨⟨_, hmaybe⟩, _, harray⟩ := count_applied t
  have hcount : ∀ n ∈ typeWrappers, occurrences (n.toList ++ ['<']) (render t).toList = (full t).applied.count n := by
    rw [← text_full]
    exact fun n hn => occurrences_wrapper hn hover hwrappers
  have hname : ∀ c ∈ "Maybe".toList, isPlain c = true := List.all_eq_true.1 (by decide)
  refine ⟨?_, ?_, ?_, ?_, ?_⟩
  · rw [← hmaybe]
    exact hcount "Maybe" (by decide)
  · rw [← harray]
    exact hcount "ArrayOrValue" (by decide)
  · rw [← text_full]
    exact balanced_text (by decide) (by decide) hover
  · rw [← text_full]
    exact occurrences_pair (by decide) (by decide) hname hname hover (isChain_applied t).2
  · rintro m rfl
    have hmark : memberMark m = optionalMark (typeOf m) := by cases m <;> rfl
    rw [memberText, hmark, optionalMark]
    simp only [maybe_prefix_iff hover]
    cases (typeOf m).isNonNull <;> rfl

/-- a list of lists with a run of marks between them, of a type that is called like a wrapper -/
def layeredType : TypeRef String := .list (.nonNull (.nonNull (.list (.leaf "Maybe"))))

theorem render_layers_named :
    Bracketless layeredType.leafOf ∧ occurrences "Maybe<".toList (render layeredType).toList = 2 ∧
      occurrences "ArrayOrValue<".toList (render layeredType).toList = 2 ∧ Balanced (render layeredType).toList ∧
      occurrences "Maybe<Maybe<".toList (render layeredType).toList = 0 ∧
      typeOf (.input "a" layeredType) = layeredType ∧ memberText (.input "a" layeredType) =
        "a" ++ (if "Maybe<".toList <+: (render layeredType).toList then "?" else "") ++ ": " ++
          memberType (.input "a" layeredType) ++ ";" := by
  have h : Bracketless layeredType.leafOf := by decide
  obtain ⟨hmaybe, harray, hbalanced, hpair, hmember⟩ := render_layers h
  exact ⟨h, hmaybe, harray, hbalanced, hpair, rfl, hmember (.input "a" layeredType) rfl⟩

end SchemaTypings.Typings
