/-
What the text of a type says about the type.

The text of a type is a name, or a name with one type between angle brackets (`Applied`), and such a text is known from
any text that starts with it, as long as names have no angle brackets and what follows it does not go on with it
(`Applied.text_append_inj`). The names of the wrappers are read back by `full_eq_iff` and `bare_eq_iff`: the text of a
type tells all of it but runs of marks against null, and the names of scalars that are the same in the module
(`render_eq_iff`).
-/
import SchemaTypings.Proofs.Schema.WellFormed
import SchemaTypings.Proofs.Text.Span
import SchemaTypings.Typings.Type

namespace SchemaTypings.Typings

open SchemaTypings.Schema SchemaTypings.Text

/-! ## Names -/

/-- names are kept, but for those of built-in scalars, which are replaced by these -/
theorem scalarName_cases (n : String) : scalarName n = n ∨ scalarName n ∈ ["string", "number", "boolean"] := by
  unfold scalarName
  split <;> simp

/-- a class of characters that has the names of scalars keeps all names that are made of it -/
theorem over_scalarName {p : Char → Bool} (hp : ∀ s ∈ ["string", "number", "boolean"], s.toList.all p = true)
    {n : String} (hn : ∀ c ∈ n.toList, p c = true) : ∀ c ∈ (scalarName n).toList, p c = true := by
  rcases scalarName_cases n with h | h
  · rw [h]
    exact hn
  · exact List.all_eq_true.1 (hp _ h)

/-! ## Names applied to types -/

/-- a type of the module: a name, or a name applied to a type -/
inductive Applied where
  | name (n : String)
  | apply (n : String) (argument : Applied)

namespace Applied

def text : Applied → String
  | .name n => n
  | .apply n a => n ++ "<" ++ a.text ++ ">"

/-- whether all names are made of characters of a class -/
def Over (p : Char → Bool) : Applied → Prop
  | .name n => ∀ c ∈ n.toList, p c = true
  | .apply n a => (∀ c ∈ n.toList, p c = true) ∧ a.Over p

theorem text_apply (n : String) (a : Applied) : (apply n a).text.toList = n.toList ++ '<' :: (a.text.toList ++ ['>']) := by
  simp [text]

theorem text_apply_append (n : String) (a : Applied) (r : List Char) :
    (apply n a).text.toList ++ r = n.toList ++ '<' :: (a.text.toList ++ '>' :: r) := by
  simp [text]

/-- whether the text of a type ends before these characters -/
def Ends (p : Char → Bool) (r : List Char) : Prop := r.head?.any p = false ∧ r.head? ≠ some '<'

/-- **The text of a type tells where it ends.** -/
theorem text_append_inj {p : Char → Bool} (hopen : p '<' = false) (hclose : p '>' = false)
    {a b : Applied} (ha : a.Over p)
    (hb : b.Over p) {r s : List Char} (hr : Ends p r) (hs : Ends p s) (h : a.text.toList ++ r = b.text.toList ++ s) :
    a = b ∧ r = s := by
  induction a generalizing b r s with
  | name n =>
    cases b with
    | name m =>
      obtain ⟨hn, hr⟩ := append_inj_of_stop ha hb hr.1 hs.1 h
      exact ⟨congrArg _ (String.toList_inj.1 hn), hr⟩
    | apply m b =>
      rw [text_apply_append] at h
      obtain ⟨_, rfl⟩ := append_inj_of_stop ha hb.1 hr.1 (by simp [hopen]) h
      exact absurd rfl hr.2
  | apply n a ih =>
    rw [text_apply_append] at h
    cases b with
    | name m =>
      obtain ⟨_, rfl⟩ := append_inj_of_stop ha.1 hb (by simp [hopen]) hs.1 h
      exact absurd rfl hs.2
    | apply m b =>
      rw [text_apply_append] at h
      obtain ⟨hn, htail⟩ := append_inj_of_stop ha.1 hb.1 (by simp [hopen]) (by simp [hopen]) h
      have hends : ∀ t, Ends p ('>' :: t) := fun t => ⟨by simp [hclose], by simp⟩
      obtain ⟨rfl, hrest⟩ := ih ha.2 hb.2 (hends r) (hends s) (List.cons.inj htail).2
      exact ⟨congrArg (apply · a) (String.toList_inj.1 hn), (List.cons.inj hrest).2⟩

end Applied

/-! ## Types as names applied to types -/

mutual

/-- the type without the layer that says whether it may be null -/
def bare : TypeRef String → Applied
  | .leaf n => .name (scalarName n)
  | .list t => .apply "ArrayOrValue" (full t)
  | .nonNull t => bare t

/-- the type with the layer that says that it may be null, if it may -/
def full : TypeRef String → Applied
  | .leaf n => .apply "Maybe" (.name (scalarName n))
  | .list t => .apply "Maybe" (.apply "ArrayOrValue" (full t))
  | .nonNull t => bare t

end

theorem full_eq (t : TypeRef String) : full t = if t.isNonNull then bare t else .apply "Maybe" (bare t) := by
  cases t <;> simp [full, bare, TypeRef.isNonNull]

theorem text_bare_full (t : TypeRef String) : (bare t).text = renderBare t ∧ (full t).text = render t := by
  induction t with
  | leaf n => exact ⟨rfl, rfl⟩
  | list t ih =>
    constructor
    · rw [bare, Applied.text, ih.2]; rfl
    · rw [full, Applied.text, Applied.text, ih.2]; rfl
  | nonNull t ih => exact ⟨ih.1, ih.1⟩

@[simp]
theorem text_bare (t : TypeRef String) : (bare t).text = renderBare t := (text_bare_full t).1

@[simp]
theorem text_full (t : TypeRef String) : (full t).text = render t := (text_bare_full t).2

/-- names of a type: those of its leaf, the wrappers apart -/
theorem over_bare_full {p : Char → Bool} (hm : ∀ c ∈ "Maybe".toList, p c = true)
    (ha : ∀ c ∈ "ArrayOrValue".toList, p c = true) {t : TypeRef String}
    (ht : ∀ c ∈ (scalarName t.leafOf).toList, p c = true) :
    (bare t).Over p ∧ (full t).Over p := by
  induction t with
  | leaf n => exact ⟨ht, hm, ht⟩
  | list t ih => exact ⟨⟨ha, (ih ht).2⟩, hm, ha, (ih ht).2⟩
  | nonNull t ih => exact ⟨(ih ht).1, (ih ht).1⟩

/-! ## Normal forms -/

/-- a type without its outermost mark against null -/
def unmarked {α : Type} : TypeRef α → TypeRef α
  | .nonNull t => t
  | t => t

/-- a type with the names of the module and without runs of marks against null -/
def collapse : TypeRef String → TypeRef String
  | .leaf n => .leaf (scalarName n)
  | .list t => .list (collapse t)
  | .nonNull t => .nonNull (unmarked (collapse t))

mutual

/-- reads a type back whose layer against null is left out -/
def ofBare : Applied → TypeRef String
  | .name n => .leaf n
  | .apply _ a => .list (ofFull a)

def ofFull : Applied → TypeRef String
  | .name n => .nonNull (.leaf n)
  | .apply n a => if n = "Maybe" then ofBare a else .nonNull (.list (ofFull a))

end

theorem scalarName_scalarName (n : String) : scalarName (scalarName n) = scalarName n := by
  rcases scalarName_cases n with h | h
  · rw [h, h]
  · simp only [List.mem_cons, List.not_mem_nil, or_false] at h
    rcases h with h | h | h <;> rw [h] <;> rfl

/-- no bare type is wrapped as one that may be null -/
theorem ofFull_bare (t : TypeRef String) : ofFull (bare t) = .nonNull (ofBare (bare t)) := by
  induction t with
  | leaf n => rfl
  | list t => rfl
  | nonNull t ih => exact ih

theorem ofBare_bare_ofFull_full (t : TypeRef String) :
    ofBare (bare t) = unmarked (collapse t) ∧ ofFull (full t) = collapse t := by
  induction t with
  | leaf n => exact ⟨rfl, rfl⟩
  | list t ih =>
    have hlist : ofBare (bare (.list t)) = .list (collapse t) := congrArg TypeRef.list ih.2
    exact ⟨hlist, hlist⟩
  | nonNull t ih =>
    refine ⟨ih.1, ?_⟩
    rw [full, ofFull_bare, ih.1, collapse]

theorem ofBare_bare (t : TypeRef String) : ofBare (bare t) = unmarked (collapse t) := (ofBare_bare_ofFull_full t).1

theorem ofFull_full (t : TypeRef String) : ofFull (full t) = collapse t := (ofBare_bare_ofFull_full t).2

@[simp]
theorem bare_unmarked (t : TypeRef String) : bare (unmarked t) = bare t := by
  cases t <;> rfl

theorem bare_full_collapse (t : TypeRef String) : bare (collapse t) = bare t ∧ full (collapse t) = full t := by
  induction t with
  | leaf n => simp [collapse, bare, full, scalarName_scalarName]
  | list t ih => simp [collapse, bare, full, ih.2]
  | nonNull t ih => simp [collapse, bare, full, ih.1]

/-- **A bare type tells the type,** up to names of scalars, runs of marks, and an outermost mark. -/
theorem bare_eq_iff (t u : TypeRef String) : bare t = bare u ↔ unmarked (collapse t) = unmarked (collapse u) := by
  constructor
  · intro h
    rw [← ofBare_bare, ← ofBare_bare, h]
  · intro h
    rw [← (bare_full_collapse t).1, ← (bare_full_collapse u).1, ← bare_unmarked, h, bare_unmarked]

/-- **A type of the module tells the type,** up to names of scalars and runs of marks. -/
theorem full_eq_iff (t u : TypeRef String) : full t = full u ↔ collapse t = collapse u := by
  constructor
  · intro h
    rw [← ofFull_full, ← ofFull_full, h]
  · intro h
    rw [← (bare_full_collapse t).2, ← (bare_full_collapse u).2, h]

/-! ## Texts -/

/-- names without angle brackets -/
def Bracketless (n : String) : Prop := '<' ∉ n.toList ∧ '>' ∉ n.toList

instance (n : String) : Decidable (Bracketless n) := inferInstanceAs (Decidable (_ ∧ _))

/-- whether a character is none of the brackets -/
def isPlain (c : Char) : Bool := c ≠ '<' && c ≠ '>'

/-- the names of a type have no brackets if its leaf has none -/
theorem over_isPlain {t : TypeRef String} (h : Bracketless t.leafOf) : (bare t).Over isPlain ∧ (full t).Over isPlain := by
  have hleaf : ∀ c ∈ t.leafOf.toList, isPlain c = true := by
    intro c hc
    have hopen : c ≠ '<' := fun heq => h.1 (heq ▸ hc)
    have hclose : c ≠ '>' := fun heq => h.2 (heq ▸ hc)
    simp [isPlain, hopen, hclose]
  have hmaybe : "Maybe".toList.all isPlain = true := by decide
  have harray : "ArrayOrValue".toList.all isPlain = true := by decide
  exact over_bare_full (List.all_eq_true.1 hmaybe) (List.all_eq_true.1 harray) (over_scalarName (by decide) hleaf)

/-- a type is known from its whole text -/
theorem Applied.text_inj {a b : Applied} (ha : a.Over isPlain) (hb : b.Over isPlain) : a.text = b.text ↔ a = b := by
  refine ⟨fun h => ?_, congrArg text⟩
  have hends : Ends isPlain [] := ⟨rfl, nofun⟩
  exact (text_append_inj (by decide) (by decide) ha hb hends hends (by rw [h])).1

/-- **The text of a type tells the type,** up to names of scalars and runs of marks against null; without its layer for
null, it tells the type up to an outermost mark, too. Names may be any texts without brackets, also none or those of the
wrappers. -/
theorem render_eq_iff {t u : TypeRef String} (ht : Bracketless t.leafOf) (hu : Bracketless u.leafOf) :
    (render t = render u ↔ collapse t = collapse u) ∧
      (renderBare t = renderBare u ↔ unmarked (collapse t) = unmarked (collapse u)) := by
  obtain ⟨hbare, hfull⟩ := over_isPlain ht
  obtain ⟨hbare', hfull'⟩ := over_isPlain hu
  constructor
  · rw [← text_full, ← text_full, Applied.text_inj hfull hfull', full_eq_iff]
  · rw [← text_bare, ← text_bare, Applied.text_inj hbare hbare', bare_eq_iff]

/-- a list with a run of marks around its items -/
def markedItems : TypeRef String := .list (.nonNull (.nonNull (.leaf "Float")))

/-- such a list with a run of marks around it, and another scalar with the same name in the module -/
def markedList : TypeRef String := .nonNull (.nonNull (.list (.nonNull (.leaf "Int"))))

theorem render_eq_iff_marked :
    Bracketless markedItems.leafOf ∧ Bracketless markedList.leafOf ∧
      render markedItems ≠ render markedList ∧ renderBare markedItems = renderBare markedList := by
  have hitems : Bracketless markedItems.leafOf := by decide
  have hlist : Bracketless markedList.leafOf := by decide
  obtain ⟨hfull, hbare⟩ := render_eq_iff hitems hlist
  exact ⟨hitems, hlist, fun h => absurd (hfull.1 h) (by decide), hbare.2 rfl⟩

/-! ## Well-formed types -/

/-- well-formed types have no runs of marks -/
theorem collapse_of_wellFormed {N : String → Prop} {t : TypeRef String} (h : t.WellFormed N) :
    collapse t = t.map scalarName := by
  induction t with
  | leaf n => rfl
  | list t ih => exact congrArg _ (ih h)
  | nonNull t ih =>
    rw [collapse, ih h.2]
    cases t with
    | nonNull t => exact absurd h.1 (by simp [TypeRef.isNonNull])
    | _ => rfl

end SchemaTypings.Typings
