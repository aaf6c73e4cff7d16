/-
What the declarations of a document say about it.

A member, an argument, a value of an enum and a declaration each end where their text says, so that a text that starts
with one tells both which one it is and what follows (the lemmas `…_append_inj`). A list of them is read item by item,
as long as what follows the list does not look like an item (`flatMap_append_inj`). What is read back is the normal form
of a definition (`normal`): the names of scalars are those of the module, and the kind of a record shows in its members
only.

The indent may be any text without line ends. It may look like the last line of a record, but that line ends there, and
a member does not.
-/
import SchemaTypings.Proofs.Sdl.Name
import SchemaTypings.Proofs.Typings.Module
import SchemaTypings.Proofs.Typings.TypeText

namespace SchemaTypings.Typings

open SchemaTypings.Schema SchemaTypings.Text
open SchemaTypings.Sdl (isName isNameCharacter isNameText all_of_isNameText)

/-! ## Normal forms -/

/-- the kind of a record as far as it shows: input objects have members of their own, and without any a record is like
the others -/
def shownKind {α : Type} : RecordKind → List α → RecordKind
  | .inputObject, _ :: _ => .inputObject
  | _, _ => .object

/-- what a declaration shows of a definition -/
def normal : Definition String → Definition String
  | .record k n ms => .record (shownKind k ms) n (ms.map (·.map scalarName))
  | .enum n vs => .enum n vs
  | .other k n ns => .other k n ns

/-! ## Lists -/

/-- items that end where their text says make lists that do: `Q` is what an item needs after it, and `R` what follows
the list -/
theorem flatMap_append_inj {α β : Type} {f : α → List Char} {g : α → β} {P : α → Prop} {Q R : List Char → Prop}
    (hitem : ∀ {a b r s}, P a → P b → Q r → Q s → f a ++ r = f b ++ s → g a = g b ∧ r = s)
    (hnext : ∀ a r, Q (f a ++ r)) (hlast : ∀ r, R r → Q r) (hstop : ∀ a r, P a → ¬ R (f a ++ r)) {as bs : List α}
    (has : ∀ a ∈ as, P a) (hbs : ∀ b ∈ bs, P b) {r s : List Char} (hr : R r) (hs : R s)
    (h : as.flatMap f ++ r = bs.flatMap f ++ s) : as.map g = bs.map g ∧ r = s := by
  -- what follows an item is another item or the rest
  have hrest : ∀ {cs : List α} {t}, R t → Q (cs.flatMap f ++ t) := by
    intro cs t ht
    cases cs with
    | nil => exact hlast t ht
    | cons c cs => rw [List.flatMap_cons, List.append_assoc]; exact hnext c _
  induction as generalizing bs with
  | nil =>
    cases bs with
    | nil => exact ⟨rfl, h⟩
    | cons b bs =>
      rw [List.flatMap_nil, List.nil_append, List.flatMap_cons, List.append_assoc] at h
      exact absurd (h ▸ hr) (hstop b _ (hbs b List.mem_cons_self))
  | cons a as ih =>
    rw [List.flatMap_cons, List.append_assoc] at h
    have ha := has a List.mem_cons_self
    cases bs with
    | nil =>
      rw [List.flatMap_nil, List.nil_append] at h
      exact absurd (h.symm ▸ hs) (hstop a _ ha)
    | cons b bs =>
      rw [List.flatMap_cons, List.append_assoc] at h
      obtain ⟨hab, hrs⟩ := hitem ha (hbs b List.mem_cons_self) (hrest hr) (hrest hs) h
      obtain ⟨hmap, hrs⟩ :=
        ih (fun c hc => has c (List.mem_cons_of_mem a hc)) (fun c hc => hbs c (List.mem_cons_of_mem b hc)) hrs
      exact ⟨by rw [List.map_cons, List.map_cons, hab, hmap], hrs⟩

theorem toList_intercalate_map {α : Type} (sep : String) (f : α → String) (a : α) (as : List α) :
    (sep.intercalate ((a :: as).map f)).toList = (f a).toList ++ as.flatMap fun b => sep.toList ++ (f b).toList := by
  induction as generalizing a with
  | nil => simp
  | cons b as ih =>
    rw [List.map_cons, List.map_cons, String.intercalate_cons_cons, String.toList_append,
      String.toList_append, ← List.map_cons, ih b, List.flatMap_cons]
    simp only [List.append_assoc]

/-! ## Names and types -/

theorem all_of_isName {n : String} (h : isName n = true) : ∀ c ∈ n.toList, isNameCharacter c = true :=
  all_of_isNameText h

theorem all_scalarName {n : String} (h : isName n = true) : ∀ c ∈ (scalarName n).toList, isNameCharacter c = true :=
  over_scalarName (by decide) (all_of_isName h)

theorem name_append_inj {m n : String} (hm : isName m = true) (hn : isName n = true) {r s : List Char}
    (hr : r.head?.any isNameCharacter = false) (hs : s.head?.any isNameCharacter = false)
    (h : m.toList ++ r = n.toList ++ s) : m = n ∧ r = s := by
  obtain ⟨hmn, hrs⟩ := append_inj_of_stop (all_of_isName hm) (all_of_isName hn) hr hs h
  exact ⟨String.toList_inj.1 hmn, hrs⟩

theorem isName_leafOf {t : TypeRef String} (h : t.WellFormed (isName · = true)) : isName t.leafOf = true := by
  induction t with
  | leaf n => exact h
  | list t ih => exact ih h
  | nonNull t ih => exact ih h.2

theorem over_bare {t : TypeRef String} (h : t.WellFormed (isName · = true)) : (bare t).Over isNameCharacter :=
  (over_bare_full (List.all_eq_true.1 (by decide)) (List.all_eq_true.1 (by decide)) (all_scalarName (isName_leafOf h))).1

theorem over_full {t : TypeRef String} (h : t.WellFormed (isName · = true)) : (full t).Over isNameCharacter :=
  (over_bare_full (List.all_eq_true.1 (by decide)) (List.all_eq_true.1 (by decide)) (all_scalarName (isName_leafOf h))).2

/-- whether a type may end before these characters -/
abbrev Ends (r : List Char) : Prop := Applied.Ends isNameCharacter r

theorem applied_append_inj {a b : Applied} (ha : a.Over isNameCharacter) (hb : b.Over isNameCharacter) {r s : List Char}
    (hr : Ends r) (hs : Ends s) (h : a.text.toList ++ r = b.text.toList ++ s) : a = b ∧ r = s :=
  Applied.text_append_inj (by decide) (by decide) ha hb hr hs h

theorem map_eq_of_full_eq {t u : TypeRef String} (ht : t.WellFormed (isName · = true))
    (hu : u.WellFormed (isName · = true)) (h : full t = full u) : t.map scalarName = u.map scalarName := by
  rw [← collapse_of_wellFormed ht, ← collapse_of_wellFormed hu]
  exact (full_eq_iff t u).1 h

/-- with the mark of the member beside it, a bare type tells the type -/
theorem map_eq_of_bare_eq {t u : TypeRef String} (ht : t.WellFormed (isName · = true))
    (hu : u.WellFormed (isName · = true))
    (hmark : t.isNonNull = u.isNonNull) (h : bare t = bare u) : t.map scalarName = u.map scalarName :=
  map_eq_of_full_eq ht hu (by rw [full_eq, full_eq, hmark, h])

/-! ## Members -/

/-- name and mark of a member or argument, up to its type -/
def label (n : String) (t : TypeRef String) : String := n ++ optionalMark t ++ ": "

theorem mark_append_inj {t u : TypeRef String} {r s : List Char}
    (h : (optionalMark t).toList ++ ':' :: r = (optionalMark u).toList ++ ':' :: s) :
    t.isNonNull = u.isNonNull ∧ r = s := by
  unfold optionalMark at h
  cases ht : t.isNonNull <;> cases hu : u.isNonNull <;> simp_all

theorem label_append_inj {m n : String} (hm : isName m = true) (hn : isName n = true) {t u : TypeRef String}
    {r s : List Char}
    (h : (label m t).toList ++ r = (label n u).toList ++ s) : m = n ∧ t.isNonNull = u.isNonNull ∧ r = s := by
  have hlabel : ∀ (k : String) (v : TypeRef String) (x : List Char),
      (label k v).toList ++ x = k.toList ++ ((optionalMark v).toList ++ ':' :: ' ' :: x) := by
    intro k v x
    simp [label]
  have hstop : ∀ (v : TypeRef String) (x : List Char),
      ((optionalMark v).toList ++ ':' :: ' ' :: x).head?.any isNameCharacter = false := by
    intro v x
    unfold optionalMark
    split_ifs <;> rfl
  rw [hlabel, hlabel] at h
  obtain ⟨hmn, h⟩ := name_append_inj hm hn (hstop t r) (hstop u s) h
  obtain ⟨hmark, h⟩ := mark_append_inj h
  exact ⟨hmn, hmark, (List.cons.inj h).2⟩

/-- **The text of an argument tells the argument.** -/
theorem argument_append_inj {a b : Argument String} (ha : a.WellFormed (isName · = true))
    (hb : b.WellFormed (isName · = true))
    {r s : List Char} (hr : Ends r) (hs : Ends s) (h : (argumentText a).toList ++ r = (argumentText b).toList ++ s) :
    a.map scalarName = b.map scalarName ∧ r = s := by
  have htext : ∀ c : Argument String, argumentText c = label c.name c.type ++ (bare c.type).text := by
    intro c
    rw [text_bare]; rfl
  rw [htext, htext, String.toList_append, String.toList_append, List.append_assoc, List.append_assoc] at h
  obtain ⟨hname, hmark, h⟩ := label_append_inj ha.1 hb.1 h
  obtain ⟨htype, h⟩ := applied_append_inj (over_bare ha.2) (over_bare hb.2) hr hs h
  exact ⟨by rw [Argument.map, Argument.map, hname, map_eq_of_bare_eq ha.2 hb.2 hmark htype], h⟩

def plainType : Member String → Applied
  | .input _ t => full t
  | .field _ t _ => .apply "Field" (full t)

def argumentsOf : Member String → List (Argument String)
  | .input _ _ => []
  | .field _ _ args => args

def typeOf : Member String → TypeRef String
  | .input _ t => t
  | .field _ t _ => t

theorem toList_memberText (m : Member String) (r : List Char) :
    (memberText m).toList ++ r = (label m.name (typeOf m)).toList ++ ((memberType m).toList ++ ';' :: r) := by
  cases m <;> simp [memberText, label, memberMark, typeOf]

theorem memberType_of_nil {m : Member String} (h : argumentsOf m = []) : memberType m = (plainType m).text := by
  cases m with
  | input n t => exact (text_full t).symm
  | field n t args =>
    obtain rfl : args = [] := h
    rw [memberType, plainType, Applied.text, text_full]
    rfl

theorem toList_memberType {n : String} {t : TypeRef String} {a : Argument String} {args : List (Argument String)}
    (r : List Char) :
    (memberType (.field n t (a :: args))).toList ++ r =
      "Resolve".toList ++ '<' :: ((full t).text.toList ++ ',' :: ' ' :: '\x7b' :: ((argumentText a).toList ++
        (args.flatMap (fun b => ", ".toList ++ (argumentText b).toList) ++ '\x7d' :: '>' :: r))) := by
  rw [memberType]
  · simp only [String.toList_append, toList_intercalate_map, text_full, List.append_assoc]
    simp
  · simp

theorem full_eq_apply {t : TypeRef String} {n : String} {a : Applied} (h : full t = .apply n a) :
    n = "Maybe" ∨ n = "ArrayOrValue" := by
  have hbare : ∀ {u : TypeRef String}, bare u = .apply n a → n = "ArrayOrValue" := by
    intro u hu
    induction u with
    | leaf m => cases hu
    | list u => cases hu; rfl
    | nonNull u ih => exact ih hu
  rw [full_eq] at h
  split_ifs at h with hn
  · exact .inr (hbare h)
  · cases h; exact .inl rfl

theorem plainType_ne_resolve {m : Member String} {a : Applied} : plainType m ≠ .apply "Resolve" a := by
  intro h
  cases m with
  | input n t =>
    rcases full_eq_apply h with h | h <;> exact absurd h (by decide)
  | field n t args => simp [plainType] at h

/-- a text of a type that starts with a name and a bracket is the name applied to something -/
theorem eq_apply_of_append {a : Applied} {n : String} {r s : List Char} (ha : a.Over isNameCharacter)
    (hn : isName n = true) (hr : Ends r) (h : a.text.toList ++ r = n.toList ++ '<' :: s) : ∃ b, a = .apply n b := by
  cases a with
  | name m =>
    obtain ⟨_, rfl⟩ := append_inj_of_stop ha (all_of_isName hn) hr.1 rfl h
    exact absurd rfl hr.2
  | apply m b =>
    rw [Applied.text_apply_append] at h
    obtain ⟨hm, _⟩ := append_inj_of_stop ha.1 (all_of_isName hn) rfl rfl h
    exact ⟨b, by rw [String.toList_inj.1 hm]⟩

theorem ends_semicolon (r : List Char) : Ends (';' :: r) := ⟨rfl, by simp⟩

theorem over_plainType {k : RecordKind} {m : Member String} (h : m.WellFormed (isName · = true) k) :
    (plainType m).Over isNameCharacter := by
  cases m with
  | input n t => exact over_full h.2.2
  | field n t args => exact ⟨List.all_eq_true.1 (by decide), over_full h.2.2.1⟩

theorem isName_name {k : RecordKind} {m : Member String} (h : m.WellFormed (isName · = true) k) :
    isName m.name = true := by
  cases m with
  | input n t => exact h.2.1
  | field n t args => exact h.2.1

/-- arguments show in the type of a member -/
theorem resolve_ne_plain {k : RecordKind} {m : Member String} (hm : m.WellFormed (isName · = true) k)
    {r s : List Char} :
    (plainType m).text.toList ++ ';' :: r ≠ "Resolve".toList ++ '<' :: s := by
  intro h
  obtain ⟨b, hb⟩ := eq_apply_of_append (over_plainType hm) (by decide) (ends_semicolon r) h
  exact plainType_ne_resolve hb

theorem map_eq_of_plainType_eq {k l : RecordKind} {m n : Member String} (hm : m.WellFormed (isName · = true) k)
    (hn : n.WellFormed (isName · = true) l) (hname : m.name = n.name) (hma : argumentsOf m = [])
    (hna : argumentsOf n = []) (h : plainType m = plainType n) : m.map scalarName = n.map scalarName := by
  cases m with
  | input m t =>
    cases n with
    | input n u =>
      obtain rfl : m = n := hname
      rw [Member.map, Member.map, map_eq_of_full_eq hm.2.2 hn.2.2 h]
    | field n u args => rcases full_eq_apply h with h | h <;> exact absurd h (by decide)
  | field m t args =>
    cases n with
    | input n u => rcases full_eq_apply h.symm with h | h <;> exact absurd h (by decide)
    | field n u brgs =>
      obtain rfl : m = n := hname
      obtain rfl : args = [] := hma
      obtain rfl : brgs = [] := hna
      have hfull : full t = full u := by
        rw [plainType, plainType, Applied.apply.injEq] at h
        exact h.2
      rw [Member.map, Member.map, map_eq_of_full_eq hm.2.2.1 hn.2.2.1 hfull]

/-- arguments after the first, each after a comma, are known from a text that goes on with a brace -/
theorem arguments_append_inj {as bs : List (Argument String)} (has : ∀ a ∈ as, a.WellFormed (isName · = true))
    (hbs : ∀ b ∈ bs, b.WellFormed (isName · = true)) {r s : List Char}
    (h : as.flatMap (fun a => ", ".toList ++ (argumentText a).toList) ++ '\x7d' :: r =
      bs.flatMap (fun b => ", ".toList ++ (argumentText b).toList) ++ '\x7d' :: s) :
    as.map (Argument.map scalarName) = bs.map (Argument.map scalarName) ∧ '\x7d' :: r = '\x7d' :: s := by
  refine flatMap_append_inj (Q := Ends) (R := fun r => r.head? = some '\x7d') ?_ ?_ ?_ ?_ has hbs rfl rfl h
  · intro a b r s ha hb hr hs h
    rw [List.append_assoc, List.append_assoc] at h
    exact argument_append_inj ha hb hr hs (List.append_cancel_left h)
  · intro a r
    exact ⟨rfl, by simp⟩
  · intro r hr
    exact ⟨by rw [hr]; decide, by rw [hr]; decide⟩
  · intro a r _
    simp

theorem eq_field_of_arguments {m : Member String} {a : Argument String} {as : List (Argument String)}
    (h : argumentsOf m = a :: as) : m = .field m.name (typeOf m) (a :: as) := by
  cases m with
  | input n t => cases h
  | field n t args => exact congrArg (Member.field n t) h

/-- a member with arguments is known from the text of its type -/
theorem resolver_append_inj {k l : RecordKind} {n : String} {t u : TypeRef String} {a b : Argument String}
    {as bs : List (Argument String)} (hm : (Member.field n t (a :: as)).WellFormed (isName · = true) k)
    (hn : (Member.field n u (b :: bs)).WellFormed (isName · = true) l) {r s : List Char}
    (h : (memberType (.field n t (a :: as))).toList ++ r = (memberType (.field n u (b :: bs))).toList ++ s) :
    (Member.field n t (a :: as)).map scalarName = (Member.field n u (b :: bs)).map scalarName ∧ r = s := by
  obtain ⟨_, _, ht, has⟩ := hm
  obtain ⟨_, _, hu, hbs⟩ := hn
  have hends : ∀ (cs : List (Argument String)) (x : List Char),
      Ends (cs.flatMap (fun c => ", ".toList ++ (argumentText c).toList) ++ '\x7d' :: x) := by
    intro cs x
    cases cs with
    | nil => exact ⟨rfl, by simp⟩
    | cons c cs => exact ⟨rfl, by simp⟩
  rw [toList_memberType, toList_memberType] at h
  have h := (List.cons.inj (List.append_cancel_left h)).2
  obtain ⟨htype, h⟩ := applied_append_inj (over_full ht) (over_full hu) ⟨rfl, by simp⟩ ⟨rfl, by simp⟩ h
  simp only [List.cons.injEq, true_and] at h
  obtain ⟨hfirst, h⟩ :=
    argument_append_inj (has a List.mem_cons_self) (hbs b List.mem_cons_self) (hends as _) (hends bs _) h
  obtain ⟨hrest, h⟩ := arguments_append_inj (fun c hc => has c (List.mem_cons_of_mem a hc))
    (fun c hc => hbs c (List.mem_cons_of_mem b hc)) h
  simp only [List.cons.injEq, true_and] at h
  refine ⟨?_, h⟩
  rw [Member.map, Member.map, map_eq_of_full_eq ht hu htype, List.map_cons, List.map_cons, hfirst, hrest]

/-- **The text of a member tells the member.** -/
theorem member_append_inj {k l : RecordKind} {m n : Member String} (hm : m.WellFormed (isName · = true) k)
    (hn : n.WellFormed (isName · = true) l) {r s : List Char}
    (h : (memberText m).toList ++ r = (memberText n).toList ++ s) :
    m.map scalarName = n.map scalarName ∧ r = s := by
  rw [toList_memberText, toList_memberText] at h
  obtain ⟨hname, _, h⟩ := label_append_inj (isName_name hm) (isName_name hn) h
  have hsemicolon : ∀ {x y : List Char}, ';' :: x = ';' :: y → x = y := fun h => (List.cons.inj h).2
  cases hma : argumentsOf m with
  | nil =>
    rw [memberType_of_nil hma] at h
    cases hna : argumentsOf n with
    | nil =>
      rw [memberType_of_nil hna] at h
      obtain ⟨htype, h⟩ :=
        applied_append_inj (over_plainType hm) (over_plainType hn) (ends_semicolon r) (ends_semicolon s) h
      exact ⟨map_eq_of_plainType_eq hm hn hname hma hna htype, hsemicolon h⟩
    | cons b bs =>
      rw [eq_field_of_arguments hna, toList_memberType] at h
      exact absurd h (resolve_ne_plain hm)
  | cons a as =>
    rw [eq_field_of_arguments hma] at h
    cases hna : argumentsOf n with
    | nil =>
      rw [memberType_of_nil hna, toList_memberType] at h
      exact absurd h.symm (resolve_ne_plain hn)
    | cons b bs =>
      rw [eq_field_of_arguments hma] at hm ⊢
      rw [eq_field_of_arguments hna] at hn h ⊢
      rw [← hname] at hn h ⊢
      obtain ⟨hmap, h⟩ := resolver_append_inj hm hn h
      exact ⟨hmap, hsemicolon h⟩

/-! ## Declarations -/

/-- lines of the members of a record -/
def lineOf (indent : String) (m : Member String) : List Char := indent.toList ++ (memberText m).toList ++ ['\n']

/-- the last line of a record is no line of a member, whatever the indent -/
theorem line_ne_last {indent : String} (hindent : '\n' ∉ indent.toList) {k : RecordKind} {m : Member String}
    (hm : m.WellFormed (isName · = true) k) (r s : List Char) : lineOf indent m ++ r ≠ '\x7d' :: '\n' :: s := by
  -- a name starts the text of a member, so that neither character of the last line does
  have hstart : ∀ {c x y}, isNameCharacter c = false → (memberText m).toList ++ x ≠ c :: y := by
    intro c x y hc h
    have hne : m.name.toList ≠ [] := by
      intro h0
      have := isName_name hm
      rw [isName, h0] at this
      exact absurd this (by decide)
    obtain ⟨d, ds, hd⟩ := List.exists_cons_of_ne_nil hne
    have hdc : isNameCharacter d = true := all_of_isName (isName_name hm) d (hd ▸ List.mem_cons_self)
    rw [toList_memberText, label, String.toList_append, String.toList_append, hd] at h
    rw [(List.cons.inj h).1, hc] at hdc
    cases hdc
  intro h
  rw [lineOf, List.append_assoc, List.append_assoc] at h
  cases hi : indent.toList with
  | nil => exact hstart rfl (by rwa [hi] at h)
  | cons c cs =>
    rw [hi] at h
    cases cs with
    | nil => exact hstart rfl (List.cons.inj h).2
    | cons d cs =>
      have hd : d = '\n' := (List.cons.inj (List.cons.inj h).2).1
      exact hindent (by simp [hi, hd])

theorem lines_append_inj {indent : String} (hindent : '\n' ∉ indent.toList) {k l : RecordKind}
    {ms ns : List (Member String)}
    (hms : ∀ m ∈ ms, m.WellFormed (isName · = true) k) (hns : ∀ n ∈ ns, n.WellFormed (isName · = true) l)
    {r s : List Char}
    (h : ms.flatMap (lineOf indent) ++ '\x7d' :: '\n' :: r = ns.flatMap (lineOf indent) ++ '\x7d' :: '\n' :: s) :
    ms.map (Member.map scalarName) = ns.map (Member.map scalarName) ∧ r = s := by
  have hitem : ∀ {m n : Member String} {r s : List Char}, (∃ k, m.WellFormed (isName · = true) k) →
      (∃ l, n.WellFormed (isName · = true) l) → True → True → lineOf indent m ++ r = lineOf indent n ++ s →
      m.map scalarName = n.map scalarName ∧ r = s := by
    rintro m n r s ⟨k, hm⟩ ⟨l, hn⟩ - - h
    simp only [lineOf, List.append_assoc] at h
    obtain ⟨hmap, h⟩ := member_append_inj hm hn (List.append_cancel_left h)
    exact ⟨hmap, (List.cons.inj h).2⟩
  obtain ⟨hmap, h⟩ := flatMap_append_inj (R := fun r => ∃ s, r = '\x7d' :: '\n' :: s) hitem (fun _ _ => trivial)
    (fun _ _ => trivial) (fun m r ⟨k, hm⟩ ⟨s, hs⟩ => line_ne_last hindent hm r s hs) (fun m hm => ⟨k, hms m hm⟩)
    (fun n hn => ⟨l, hns n hn⟩) ⟨r, rfl⟩ ⟨s, rfl⟩ h
  simp only [List.cons.injEq, true_and] at h
  exact ⟨hmap, h⟩

@[simp]
theorem shownKind_nil {α : Type} (k : RecordKind) : shownKind k ([] : List α) = .object := by
  cases k <;> rfl

@[simp]
theorem shownKind_cons {α : Type} (k : RecordKind) (a : α) (as : List α) :
    shownKind k (a :: as) = if k = .inputObject then .inputObject else .object := by
  cases k <;> rfl

/-- the members of a record tell whether it is an input object -/
theorem inputObject_iff {k l : RecordKind} {m n : Member String} (hm : m.WellFormed (isName · = true) k)
    (hn : n.WellFormed (isName · = true) l) (h : m.map scalarName = n.map scalarName) :
    k = .inputObject ↔ l = .inputObject := by
  cases m with
  | input m t =>
    cases n with
    | input n u => exact iff_of_true hm.1 hn.1
    | field n u bs => cases h
  | field m t as =>
    cases n with
    | input n u => cases h
    | field n u bs => exact iff_of_false hm.1 hn.1

theorem shownKind_eq {k l : RecordKind} {ms ns : List (Member String)}
    (hms : ∀ m ∈ ms, m.WellFormed (isName · = true) k) (hns : ∀ n ∈ ns, n.WellFormed (isName · = true) l)
    (h : ms.map (Member.map scalarName) = ns.map (Member.map scalarName)) : shownKind k ms = shownKind l ns := by
  cases ms with
  | nil =>
    obtain rfl : ns = [] := List.map_eq_nil_iff.1 h.symm
    rw [shownKind_nil, shownKind_nil]
  | cons m ms =>
    cases ns with
    | nil => cases h
    | cons n ns =>
      have hfirst := inputObject_iff (hms m List.mem_cons_self) (hns n List.mem_cons_self) (List.cons.inj h).1
      simp [hfirst]

theorem toList_recordText (indent n : String) (ms : List (Member String)) (r : List Char) :
    (recordText indent n ms).toList ++ r = "export interface ".toList ++ (n.toList ++ ' ' :: '\x7b' :: '\n' ::
      (ms.flatMap (lineOf indent) ++ '\x7d' :: '\n' :: r)) := by
  have hlines : (String.join (ms.map (memberLine indent))).toList = ms.flatMap (lineOf indent) := by
    rw [String.toList_join, List.flatMap_map]
    exact List.flatMap_congr fun m _ => by simp [memberLine_string, lineOf]
  rw [recordText_string]
  simp only [String.toList_append, hlines, List.append_assoc]
  simp

theorem record_append_inj {indent : String} (hindent : '\n' ∉ indent.toList) {k l : RecordKind} {m n : String}
    {ms ns : List (Member String)} (hm : (Definition.record k m ms).WellFormed (isName · = true))
    (hn : (Definition.record l n ns).WellFormed (isName · = true)) {r s : List Char}
    (h : (recordText indent m ms).toList ++ r = (recordText indent n ns).toList ++ s) :
    normal (.record k m ms) = normal (.record l n ns) ∧ r = s := by
  rw [toList_recordText, toList_recordText, List.append_right_inj] at h
  obtain ⟨hname, h⟩ := name_append_inj hm.1 hn.1 (by rfl) (by rfl) h
  simp only [List.cons.injEq, true_and] at h
  obtain ⟨hmap, h⟩ := lines_append_inj hindent hm.2 hn.2 h
  exact ⟨by rw [normal, normal, hname, shownKind_eq hm.2 hn.2 hmap, hmap], h⟩

/-- an enum value between quotes -/
def quoted (v : String) : String := "'" ++ v ++ "'"

theorem quoted_append_inj {v w : String} (hv : isName v = true) (hw : isName w = true) {r s : List Char}
    (h : (quoted v).toList ++ r = (quoted w).toList ++ s) : v = w ∧ r = s := by
  have hquoted : ∀ (u : String) (x : List Char), (quoted u).toList ++ x = '\'' :: (u.toList ++ '\'' :: x) := by
    intro u x
    simp [quoted]
  rw [hquoted, hquoted] at h
  obtain ⟨hvw, h⟩ := name_append_inj hv hw (by rfl) (by rfl) (List.cons.inj h).2
  exact ⟨hvw, (List.cons.inj h).2⟩

/-- values after the first, each after a bar, are known from a text that goes on with the end of the line -/
theorem values_append_inj {vs ws : List String} (hvs : ∀ v ∈ vs, isName v = true) (hws : ∀ w ∈ ws, isName w = true)
    {r s : List Char} (h : vs.flatMap (fun v => " | ".toList ++ (quoted v).toList) ++ ';' :: r =
      ws.flatMap (fun w => " | ".toList ++ (quoted w).toList) ++ ';' :: s) : vs = ws ∧ ';' :: r = ';' :: s := by
  have hitem : ∀ {v w : String} {r s : List Char}, isName v = true → isName w = true → True → True →
      " | ".toList ++ (quoted v).toList ++ r = " | ".toList ++ (quoted w).toList ++ s → id v = id w ∧ r = s := by
    intro v w r s hv hw _ _ h
    rw [List.append_assoc, List.append_assoc] at h
    exact quoted_append_inj hv hw (List.append_cancel_left h)
  have hstop : ∀ (v : String) (r : List Char), isName v = true →
      (" | ".toList ++ (quoted v).toList ++ r).head? ≠ some ';' := by
    intro v r _
    simp
  have hmap :=
    flatMap_append_inj (R := fun r => r.head? = some ';') hitem (fun _ _ => trivial) (fun _ _ => trivial) hstop
    hvs hws rfl rfl h
  rwa [List.map_id, List.map_id] at hmap

theorem union_append_inj {vs ws : List String} (hvs : ∀ v ∈ vs, isName v = true) (hws : ∀ w ∈ ws, isName w = true)
    {r s : List Char} (h : (unionText vs).toList ++ ';' :: r = (unionText ws).toList ++ ';' :: s) :
    vs = ws ∧ ';' :: r = ';' :: s := by
  have hcons : ∀ (u : String) (us : List String) (x : List Char), (unionText (u :: us)).toList ++ x =
      (quoted u).toList ++ (us.flatMap (fun v => " | ".toList ++ (quoted v).toList) ++ x) := by
    intro u us x
    rw [unionText, if_neg (by simp)]
    show ((" | ".intercalate ((u :: us).map quoted)).toList ++ x) = _
    rw [toList_intercalate_map, List.append_assoc]
  cases vs with
  | nil =>
    cases ws with
    | nil => exact ⟨rfl, List.append_cancel_left h⟩
    | cons w ws =>
      rw [hcons] at h
      simp [unionText, quoted] at h
  | cons v vs =>
    rw [hcons] at h
    cases ws with
    | nil => simp [unionText, quoted] at h
    | cons w ws =>
      rw [hcons] at h
      obtain ⟨hfirst, h⟩ := quoted_append_inj (hvs v List.mem_cons_self) (hws w List.mem_cons_self) h
      obtain ⟨hrest, h⟩ := values_append_inj (fun u hu => hvs u (List.mem_cons_of_mem v hu))
        (fun u hu => hws u (List.mem_cons_of_mem w hu)) h
      exact ⟨by rw [hfirst, hrest], h⟩

theorem toList_enumText (n : String) (vs : List String) (r : List Char) :
    (enumText n vs).toList ++ r = "export type ".toList ++ (n.toList ++ ' ' :: '=' :: ' ' ::
      ((unionText vs).toList ++ ';' :: '\n' :: r)) := by
  unfold enumText
  simp only [String.toList_append, List.append_assoc]
  simp

theorem enum_append_inj {m n : String} {vs ws : List String} (hm : (Definition.enum m vs).WellFormed (isName · = true))
    (hn : (Definition.enum n ws).WellFormed (isName · = true)) {r s : List Char}
    (h : (enumText m vs).toList ++ r = (enumText n ws).toList ++ s) :
    normal (.enum m vs) = normal (.enum n ws) ∧ r = s := by
  rw [toList_enumText, toList_enumText, List.append_right_inj] at h
  obtain ⟨hname, h⟩ := name_append_inj hm.1 hn.1 (by rfl) (by rfl) h
  simp only [List.cons.injEq, true_and] at h
  obtain ⟨hvalues, h⟩ := union_append_inj (fun v hv => (hm.2 v hv).1) (fun w hw => (hn.2 w hw).1) h
  simp only [List.cons.injEq, true_and] at h
  exact ⟨by rw [normal, normal, hname, hvalues], h⟩

/-- records and enums start with different words -/
theorem recordText_ne_enumText (indent m n : String) (ms : List (Member String)) (vs : List String) (r s : List Char) :
    (recordText indent m ms).toList ++ r ≠ (enumText n vs).toList ++ s := by
  rw [toList_recordText, toList_enumText]
  simp

/-- **The text of a declaration tells the definition.** -/
theorem declaration_append_inj {indent : String} (hindent : '\n' ∉ indent.toList) {d e : Definition String}
    (hd : d.isDeclared = true ∧ d.WellFormed (isName · = true))
    (he : e.isDeclared = true ∧ e.WellFormed (isName · = true))
    {r s : List Char} (h : (declaration indent d).toList ++ r = (declaration indent e).toList ++ s) :
    normal d = normal e ∧ r = s := by
  cases d with
  | record k m ms =>
    cases e with
    | record l n ns => exact record_append_inj hindent hd.2 he.2 h
    | enum n ws => exact absurd h (recordText_ne_enumText indent m n ms ws r s)
    | other l n ns => cases he.1
  | enum m vs =>
    cases e with
    | record l n ns => exact absurd h.symm (recordText_ne_enumText indent n m ns vs s r)
    | enum n ws => exact enum_append_inj hd.2 he.2 h
    | other l n ns => cases he.1
  | other k n ns => cases hd.1

theorem declaration_ne_nil {indent : String} {d : Definition String} (hd : d.isDeclared = true) (r : List Char) :
    (declaration indent d).toList ++ r ≠ [] := by
  cases d with
  | record k n ms => rw [declaration, toList_recordText]; simp
  | enum n vs => rw [declaration, TextLike.ofText_string, toList_enumText]; simp
  | other k n ns => cases hd

/-! ## Definitions with the same declaration -/

theorem bare_full_map (t : TypeRef String) : bare (t.map scalarName) = bare t ∧ full (t.map scalarName) = full t := by
  induction t with
  | leaf n => simp [TypeRef.map, bare, full, scalarName_scalarName]
  | list t ih => simp [TypeRef.map, bare, full, ih.2]
  | nonNull t ih => exact ⟨ih.1, ih.1⟩

@[simp]
theorem renderBare_map (t : TypeRef String) : renderBare (t.map scalarName) = renderBare t := by
  rw [← text_bare, ← text_bare, (bare_full_map t).1]

@[simp]
theorem render_map (t : TypeRef String) : render (t.map scalarName) = render t := by
  rw [← text_full, ← text_full, (bare_full_map t).2]

@[simp]
theorem optionalMark_map (t : TypeRef String) : optionalMark (t.map scalarName) = optionalMark t := by
  cases t <;> rfl

@[simp]
theorem argumentText_map (a : Argument String) : argumentText (a.map scalarName) = argumentText a := by
  simp [argumentText, Argument.map]

@[simp]
theorem memberText_map (m : Member String) : memberText (m.map scalarName) = memberText m := by
  cases m with
  | input n t => simp [memberText, Member.map, Member.name, memberMark, memberType]
  | field n t args =>
    have hargs : (args.map (Argument.map scalarName)).map argumentText = args.map argumentText := by
      rw [List.map_map]
      exact List.map_congr_left fun a _ => argumentText_map a
    have htype :
        memberType (.field n (t.map scalarName) (args.map (Argument.map scalarName))) = memberType (.field n t args) := by
      cases args with
      | nil => simp [memberType]
      | cons a args =>
        rw [List.map_cons] at hargs ⊢
        simp [memberType, hargs]
    simp [memberText, Member.map, Member.name, memberMark, htype]

@[simp]
theorem declaration_normal {τ : Type} [TextLike τ] (indent : τ) (d : Definition String) :
    declaration indent (normal d) = declaration indent d := by
  cases d with
  | record k n ms =>
    have hlines : (ms.map (·.map scalarName)).map (memberLine indent) = ms.map (memberLine indent) := by
      rw [List.map_map]
      exact List.map_congr_left fun m _ => by simp [memberLine]
    rw [normal, declaration, declaration, recordText, recordText, hlines]
  | enum n vs => rfl
  | other k n ns => rfl

@[simp]
theorem bodyText_normal {τ : Type} [TextLike τ] (indent : τ) (ds : List (Definition String)) :
    bodyText indent (ds.map normal) = bodyText indent ds := by
  unfold bodyText
  rw [List.map_map]
  exact congrArg _ (List.map_congr_left fun d _ => by simp only [Function.comp, declaration_normal])

/-! ## Documents -/

/-- declarations with an indent that is a text tell the normal form of their document -/
theorem normal_eq_of_bodyText {indent : String} (hindent : '\n' ∉ indent.toList) {ds es : List (Definition String)}
    (hds : ∀ d ∈ ds, d.isDeclared = true ∧ d.WellFormed (isName · = true))
    (hes : ∀ e ∈ es, e.isDeclared = true ∧ e.WellFormed (isName · = true)) (h : bodyText indent ds = bodyText indent es) :
    ds.map normal = es.map normal := by
  have hbody : ∀ gs : List (Definition String), (bodyText indent gs).toList =
      gs.flatMap (fun g => (declaration indent g).toList ++ ['\n']) ++ [] := by
    intro gs
    rw [bodyText, TextLike.join_string, String.toList_join, List.flatMap_map, List.append_nil]
    exact List.flatMap_congr fun g _ => by simp
  have hitem : ∀ {d e : Definition String} {r s : List Char}, (d.isDeclared = true ∧ d.WellFormed (isName · = true)) →
      (e.isDeclared = true ∧ e.WellFormed (isName · = true)) → True → True →
      (declaration indent d).toList ++ ['\n'] ++ r = (declaration indent e).toList ++ ['\n'] ++ s →
      normal d = normal e ∧ r = s := by
    intro d e r s hd he _ _ h
    rw [List.append_assoc, List.append_assoc] at h
    obtain ⟨hde, h⟩ := declaration_append_inj hindent hd he h
    exact ⟨hde, List.append_cancel_left h⟩
  have hstop : ∀ (d : Definition String) (r : List Char), (d.isDeclared = true ∧ d.WellFormed (isName · = true)) →
      (declaration indent d).toList ++ ['\n'] ++ r ≠ [] := by
    intro d r hd
    rw [List.append_assoc]
    exact declaration_ne_nil hd.1 _
  have h := congrArg String.toList h
  rw [hbody, hbody] at h
  exact (flatMap_append_inj (R := (· = [])) hitem (fun _ _ => trivial) (fun _ _ => trivial) hstop hds hes rfl rfl h).1

/-- **The declarations of a document tell its normal form,** and no more. -/
theorem bodyText_eq_iff {τ : Type} [TextLike τ] {indent : τ} (hindent : TextLike.Lacks indent '\n')
    {ds es : List (Definition String)} (hds : ∀ d ∈ ds, d.isDeclared = true ∧ d.WellFormed (isName · = true))
    (hes : ∀ e ∈ es, e.isDeclared = true ∧ e.WellFormed (isName · = true)) :
    bodyText indent ds = bodyText indent es ↔ ds.map normal = es.map normal := by
  constructor
  · intro h
    -- an indent that is no text is shown as one, with blanks for the halves of pairs
    have hshown := congrArg (TextLike.shown TextLike.blank) h
    rw [← bodyText_map (TextLike.preserves_shown _), ← bodyText_map (TextLike.preserves_shown _)] at hshown
    exact normal_eq_of_bodyText ((TextLike.notMem_shown (TextLike.blank_ne (by decide))).2 hindent) hds hes hshown
  · intro h
    rw [← bodyText_normal, h, bodyText_normal]

end SchemaTypings.Typings
