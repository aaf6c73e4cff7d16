/-
Which directories are made for a file.

`Adds`: a tree has all that was there, and beside it only directories that certain paths lead to. One directory that is
made is such an addition (`adds_of_makeDirectory`), and additions follow one another (`Adds.trans`). So by induction on
the names, whether it gets to its end or stops midway, making a directory with those around it adds only directories that
its path passes through (`makeDirectories_addsOnly`).
-/
import SchemaTypings.Proofs.Workspace.Path
import SchemaTypings.Proofs.Workspace.Tree

namespace SchemaTypings.Workspace

variable {t t' t'' : Tree} {path : String} {place : List String} {made : String → Prop}

/-! ## Texts of paths -/

/-- names make a text with characters -/
theorem toList_intercalate_ne_nil {names : List String} (hne : names ≠ []) (hnames : ∀ n ∈ names, IsName n) :
    ("/".intercalate names).toList ≠ [] := by
  intro hnil
  have hempty : names = [""] := by
    rw [← namesOf_intercalate hne hnames, namesOf, hnil]
    rfl
  exact (hnames "" (hempty ▸ List.mem_singleton_self "")).ne_empty rfl

/-- a text without a slash at its end -/
theorem getLast?_intercalate {names : List String} (hnames : ∀ n ∈ names, IsName n) :
    ("/".intercalate names).toList.getLast? ≠ some '/' := by
  induction names with
  | nil => decide
  | cons n names ih =>
    obtain ⟨hn, hrest⟩ := List.forall_mem_cons.1 hnames
    cases names with
    | nil =>
      rw [String.intercalate_singleton]
      exact fun hlast => hn.slash (List.mem_of_getLast? hlast)
    | cons m names =>
      rw [String.intercalate_cons_cons, String.toList_append, String.toList_append,
        List.getLast?_append_of_ne_nil _ (toList_intercalate_ne_nil (List.cons_ne_nil m names) hrest)]
      exact ih hrest

/-- a path has no slashes at its end, unless it is only a slash -/
theorem withoutSlashes_text (root : Root) {names : List String} (hnames : ∀ n ∈ names, IsName n) :
    Tree.withoutSlashes (Path.mk root names).text = (Path.mk root names).text := by
  have hkeep : ∀ text : String, text.toList.getLast? ≠ some '/' → Tree.withoutSlashes text = text := by
    intro text hlast
    unfold Tree.withoutSlashes
    cases hchars : text.toList.reverse with
    | nil => rfl
    | cons c cs =>
      have hc : c ≠ '/' := by
        rintro rfl
        exact hlast (by rw [List.getLast?_eq_head?_reverse, hchars]; rfl)
      rw [List.dropWhile_cons_of_neg (by simpa using hc)]
      show String.ofList (c :: cs).reverse = text
      rw [← hchars, List.reverse_reverse, String.ofList_toList]
  cases names with
  | nil => cases root <;> decide +kernel
  | cons n names =>
    apply hkeep
    rw [Path.text, if_neg fun hdot => List.cons_ne_nil n names hdot.2, String.toList_append,
      List.getLast?_append_of_ne_nil _ (toList_intercalate_ne_nil (List.cons_ne_nil n names) hnames)]
    exact getLast?_intercalate hnames

/-! ## Directories that are added -/

/-- a tree with all that was there, and with directories that the paths lead to -/
def Adds (made : String → Prop) (t t' : Tree) : Prop :=
  ∀ place, t'.get? place = t.get? place ∨
    t.get? place = none ∧ t'.get? place = some .directory ∧ ∃ path, made path ∧ t'.locate path = .ok place

theorem Adds.refl (made : String → Prop) (t : Tree) : Adds made t t := fun _ => .inl rfl

theorem Adds.get? (h : Adds made t t') {e : Entry} (hplace : t.get? place = some e) : t'.get? place = some e := by
  rcases h place with heq | ⟨hnone, _⟩
  · rw [heq, hplace]
  · rw [hplace] at hnone
    cases hnone

theorem Adds.grows (h : Adds made t t') : Tree.Grows t t' where
  entries := fun place hplace => by
    obtain ⟨e, he⟩ := Option.isSome_iff_exists.1 hplace
    rw [h.get? he]
    rfl
  directories := fun place hplace => h.get? hplace

theorem Adds.trans (h : Adds made t t') (h' : Adds made t' t'') : Adds made t t'' := by
  intro place
  rcases h' place with heq | ⟨hnone, hdirectory, hpath⟩
  · rcases h place with heq' | ⟨hnone, hdirectory, path, hmade, hlocate⟩
    · exact .inl (heq.trans heq')
    · exact .inr ⟨hnone, heq.trans hdirectory, path, hmade, h'.grows.locate hlocate⟩
  · refine .inr ⟨?_, hdirectory, hpath⟩
    cases hplace : t.get? place with
    | none => rfl
    | some e => rw [← h.get? hplace, hnone]

theorem Adds.mono {made' : String → Prop} (h : Adds made t t') (hmade : ∀ path, made path → made' path) :
    Adds made' t t' := by
  intro place
  rcases h place with heq | ⟨hnone, hdirectory, path, hpath, hlocate⟩
  · exact .inl heq
  · exact .inr ⟨hnone, hdirectory, path, hmade path hpath, hlocate⟩

/-- a path that leads to what was added led nowhere before -/
theorem kind?_eq_none (h : Tree.Grows t t') (hlocate : t'.locate path = .ok place) (hplace : t.get? place = none) :
    t.kind? path = none := by
  unfold Tree.kind?
  cases hbefore : t.locate path with
  | error o => rfl
  | ok before =>
    obtain rfl := Except.ok.inj ((h.locate hbefore).symm.trans hlocate)
    simp only [hplace]

theorem adds_of_makeDirectory (hpath : Tree.withoutSlashes path = path) (h : t.makeDirectory path = .ok t') :
    Adds (· = path) t t' := by
  obtain ⟨place, htarget, hplace, rfl⟩ := Tree.makeDirectory_eq_ok hpath h
  have hdirectory : t.get? place ≠ some .directory := by
    rw [hplace]
    nofun
  intro other
  rw [Tree.get?_put _ _ _ _ (Tree.ne_top hdirectory)]
  split_ifs with hother
  · subst hother
    exact .inr ⟨hplace, rfl, path, rfl, Tree.locate_of_target htarget hdirectory .directory⟩
  · exact .inl rfl

/-! ## Making directories -/

/-- work that only adds directories -/
def AddsOnly {α : Type} (made : String → Prop) (x : StateM Tree α) : Prop := ∀ t, Adds made t (x t).2

theorem AddsOnly.bind {α β : Type} {x : StateM Tree α} {f : α → StateM Tree β} (hx : AddsOnly made x)
    (hf : ∀ a, AddsOnly made (f a)) : AddsOnly made (x >>= f) := fun t => (hx t).trans (hf (x t).1 (x t).2)

theorem AddsOnly.pure {α : Type} (a : α) : AddsOnly made (pure a : StateM Tree α) := fun t => .refl made t

theorem makeDirectory_addsOnly (hpath : Tree.withoutSlashes path = path) (hmade : made path) :
    AddsOnly made (FileStore.makeDirectory path : StateM Tree (Except FileFault Unit)) := by
  intro t
  rw [makeDirectory_apply, changing]
  cases hmake : t.makeDirectory path with
  | error f => exact .refl made t
  | ok t' => exact (adds_of_makeDirectory hpath hmake).mono fun p hp => hp ▸ hmade

theorem toleratingExisting_addsOnly (path : String) (r : Except FileFault Unit) :
    AddsOnly made (toleratingExisting path r : StateM Tree (Except FileFault Unit)) := by
  cases r with
  | ok u => exact .pure _
  | error f =>
    unfold toleratingExisting
    dsimp only
    split_ifs with hmissing
    · exact .pure _
    · refine .bind (fun t => .refl made t) fun kind => ?_
      split_ifs
      · exact .pure _
      · exact .pure _

/-- the path of the first names, and those on the way to it -/
def PassesThrough (root : Root) (names : List String) (path : String) : Prop :=
  ∃ first, first <+: names ∧ path = (Path.mk root first).text

/-- **A directory is made with those around it**, or some of them if one cannot be made. -/
theorem makeDirectories_addsOnly (root : Root) (names : List String) (hnames : ∀ n ∈ names, IsName n) :
    AddsOnly (PassesThrough root names.reverse) (makeDirectories root names : StateM Tree (Except FileFault Unit)) := by
  induction names with
  | nil =>
    have hpath := withoutSlashes_text root (List.forall_mem_nil IsName)
    refine (makeDirectory_addsOnly hpath ⟨[], List.nil_prefix, rfl⟩).bind fun r => ?_
    exact toleratingExisting_addsOnly _ r
  | cons n around ih =>
    have hreverse : ∀ m ∈ (n :: around).reverse, IsName m := fun m hm => hnames m (List.mem_reverse.1 hm)
    have hpasses : PassesThrough root (n :: around).reverse (Path.mk root (n :: around).reverse).text :=
      ⟨_, List.prefix_refl _, rfl⟩
    have hmake := makeDirectory_addsOnly (withoutSlashes_text root hreverse) hpasses
    have haround : AddsOnly (PassesThrough root (n :: around).reverse)
        (makeDirectories root around : StateM Tree (Except FileFault Unit)) := by
      refine fun t => (ih (fun m hm => hnames m (List.mem_cons_of_mem n hm)) t).mono ?_
      rintro path ⟨first, hfirst, rfl⟩
      rw [List.reverse_cons]
      exact ⟨first, hfirst.trans (List.prefix_append _ _), rfl⟩
    refine hmake.bind fun r => ?_
    split
    · refine haround.bind fun r => ?_
      split
      · exact .pure _
      · exact hmake.bind fun r => toleratingExisting_addsOnly _ r
    · exact toleratingExisting_addsOnly _ r

/-- the paths around the file of a path -/
def IsAround (text path : String) : Prop :=
  PassesThrough (Path.ofText text).root (Path.ofText text).names.dropLast path

theorem makeParents_addsOnly (text : String) :
    AddsOnly (IsAround text) (makeParents text : StateM Tree (Except FileFault Unit)) := by
  have hnames : ∀ n ∈ (Path.ofText text).names.dropLast.reverse, IsName n := fun n hn =>
    isName_of_mem_ofText (List.dropLast_subset _ (List.mem_reverse.1 hn))
  have hmake := makeDirectories_addsOnly (Path.ofText text).root _ hnames
  rwa [List.reverse_reverse] at hmake

end SchemaTypings.Workspace
