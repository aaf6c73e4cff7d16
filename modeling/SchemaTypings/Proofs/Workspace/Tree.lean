/-
Files are found where they were written.

A tree in which a file is put has all that was there, and directories stay directories (`Grows`), so that a path leads
where it led before. A file is put either at a place where its path leads already, or below a directory as the last name
of its path; in both cases its path leads there afterwards (`locate_of_target`), and `read_of_write` and `write_again`
follow.
-/
import Mathlib.Tactic
import SchemaTypings.Workspace.Tree

namespace SchemaTypings.Workspace.Tree

variable {t t' : Tree} {place next : List String} {name path : String} {content : ByteArray}

theorem get?_top (t : Tree) : t.get? [] = some .directory := if_pos rfl

/-! ## What operations do -/

/-- what a step does: dots stay, double dots go up, a name goes down to what is there -/
theorem step_eq_ok (h : t.step place name = .ok next) :
    t.get? place = some .directory ∧
      (((name = "" ∨ name = ".") ∧ next = place) ∨ (name = ".." ∧ next = place.dropLast) ∨
        (isDots name = false ∧ next = place ++ [name] ∧ (t.get? (place ++ [name])).isSome = true)) := by
  unfold step at h
  cases hplace : t.get? place with
  | none =>
    rw [hplace] at h
    cases h
  | some e =>
    rw [hplace] at h
    cases e with
    | file content => cases h
    | directory =>
      dsimp only at h
      refine ⟨rfl, ?_⟩
      split_ifs at h with hdot hup hdown
      · exact .inl ⟨hdot, (Except.ok.inj h).symm⟩
      · exact .inr (.inl ⟨hup, (Except.ok.inj h).symm⟩)
      · have hdots : isDots name = false := by
          rw [not_or] at hdot
          simp [isDots, hdot.1, hdot.2, hup]
        exact .inr (.inr ⟨hdots, (Except.ok.inj h).symm, hdown⟩)

/-- a step down -/
theorem step_of_isSome (hplace : t.get? place = some .directory) (hname : isDots name = false)
    (hnext : (t.get? (place ++ [name])).isSome = true) : t.step place name = .ok (place ++ [name]) := by
  simp only [isDots, Bool.or_eq_false_iff, decide_eq_false_iff_not] at hname
  rw [step, hplace]
  dsimp only
  rw [if_neg (not_or.2 hname.1), if_neg hname.2, if_pos hnext]

theorem locate_eq_ok (h : t.locate path = .ok place) :
    path ≠ "" ∧ hasNul path = false ∧ t.walk (namesOf path) = .ok place := by
  unfold locate at h
  split_ifs at h with hpath hnul
  exact ⟨hpath, Bool.eq_false_iff.2 hnul, h⟩

/-- a path leads where its names do -/
theorem locate_eq_walk (hpath : path ≠ "") (hnul : hasNul path = false) : t.locate path = t.walk (namesOf path) := by
  rw [locate, if_neg hpath, hnul]
  rfl

/-- a path that cannot be has another fault -/
theorem hasNul_of_locate (h : t.locate path = .error .notFound) : hasNul path = false := by
  unfold locate at h
  split_ifs at h with hpath hnul
  · rw [hpath]
    rfl
  · cases h
  · exact Bool.eq_false_iff.2 hnul

theorem dropLast_append_getLastD {names : List String} (hne : names ≠ []) (d : String) :
    names.dropLast ++ [names.getLastD d] = names := by
  rw [List.getLastD_eq_getLast?, List.getLast?_eq_getLast_of_ne_nil hne]
  exact List.dropLast_append_getLast hne

/-- where a new file goes, or where there is one already -/
theorem target_eq_ok (h : t.target path = .ok place) :
    t.locate path = .ok place ∨
      hasNul path = false ∧
      ∃ names name around, namesOf path = names ++ [name] ∧ isDots name = false ∧ t.walk names = .ok around ∧
        t.get? around = some .directory ∧ place = around ++ [name] := by
  unfold target at h
  split at h
  · next found hlocate =>
    obtain rfl := Except.ok.inj h
    exact .inl hlocate
  · next hlocate =>
    dsimp only at h
    split_ifs at h with hdots
    obtain ⟨around, hwalk, h⟩ := Outcome.bind_eq_ok.1 h
    rw [Bool.not_eq_true] at hdots
    have hne : namesOf path ≠ [] := by
      intro hnil
      rw [hnil] at hdots
      cases hdots
    refine .inr ⟨hasNul_of_locate hlocate, _, _, around, (dropLast_append_getLastD hne "").symm, hdots, hwalk, ?_⟩
    split at h
    · next haround => exact ⟨haround, (Except.ok.inj h).symm⟩
    · cases h
    · cases h
  · cases h

/-- where a file goes there is no directory -/
theorem filePlace_eq_ok (h : t.filePlace path = .ok place) :
    t.target path = .ok place ∧ t.get? place ≠ some .directory := by
  unfold filePlace at h
  split_ifs at h with hnul hslash
  · obtain ⟨_, -, h⟩ := Outcome.bind_eq_ok.1 h
    cases h
  · obtain ⟨found, htarget, h⟩ := Outcome.bind_eq_ok.1 h
    split_ifs at h with hdirectory
    obtain rfl := Except.ok.inj h
    exact ⟨htarget, hdirectory⟩

theorem write_eq_ok (h : t.write path content = .ok t') :
    ∃ place, t.filePlace path = .ok place ∧ t' = t.put place (.file content) := by
  unfold write at h
  cases hplace : t.filePlace path with
  | error o =>
    rw [hplace] at h
    cases h
  | ok place =>
    rw [hplace] at h
    exact ⟨place, rfl, (Except.ok.inj h).symm⟩

/-- a directory is made where nothing is -/
theorem makeDirectory_eq_ok (hpath : withoutSlashes path = path) (h : t.makeDirectory path = .ok t') :
    ∃ place, t.target path = .ok place ∧ t.get? place = none ∧ t' = t.put place .directory := by
  unfold makeDirectory at h
  rw [hpath] at h
  cases htarget : t.target path with
  | error o =>
    rw [htarget] at h
    cases h
  | ok place =>
    rw [htarget] at h
    dsimp only at h
    cases hplace : t.get? place with
    | some e =>
      rw [hplace] at h
      cases h
    | none =>
      rw [hplace] at h
      exact ⟨place, rfl, hplace, (Except.ok.inj h).symm⟩

/-- what is read is what stands where the path leads -/
theorem read_eq_ok_iff : t.read path = .ok content ↔ ∃ place, t.locate path = .ok place ∧ t.get? place = some (.file content) := by
  unfold read
  cases t.locate path with
  | error o => simp
  | ok place =>
    cases hplace : t.get? place with
    | none => simp [hplace]
    | some e => cases e <;> simp [hplace]

theorem kind?_eq_directory_iff :
    t.kind? path = some .directory ↔ ∃ place, t.locate path = .ok place ∧ t.get? place = some .directory := by
  unfold kind?
  cases t.locate path with
  | error o => simp
  | ok place =>
    cases hplace : t.get? place with
    | none => simp [hplace]
    | some e => cases e <;> simp [hplace]

/-! ## Trees that grow -/

/-- what stands in a tree stands in the other one, and its directories are directories there -/
structure Grows (t t' : Tree) : Prop where
  entries : ∀ place, (t.get? place).isSome = true → (t'.get? place).isSome = true
  directories : ∀ place, t.get? place = some .directory → t'.get? place = some .directory

theorem ne_top (h : t.get? place ≠ some .directory) : place ≠ [] := by
  rintro rfl
  exact h t.get?_top

theorem grows_put (h : t.get? place ≠ some .directory) (e : Entry) : Grows t (t.put place e) := by
  have hget := fun other => get?_put t place other e (ne_top h)
  refine ⟨fun other hother => ?_, fun other hother => ?_⟩
  · rw [hget]
    split_ifs
    · rfl
    · exact hother
  · have hne : other ≠ place := by
      rintro rfl
      exact h hother
    rw [hget, if_neg hne, hother]

/-- a step goes on to the same place -/
theorem Grows.step (h : Grows t t') (hstep : t.step place name = .ok next) : t'.step place name = .ok next := by
  obtain ⟨hplace, ⟨hdot, rfl⟩ | ⟨rfl, rfl⟩ | ⟨hdots, rfl, hsome⟩⟩ := step_eq_ok hstep
  · rw [Tree.step, h.directories _ hplace]
    exact if_pos hdot
  · rw [Tree.step, h.directories _ hplace]
    rfl
  · exact step_of_isSome (h.directories _ hplace) hdots (h.entries _ hsome)

theorem Grows.walkFrom (h : Grows t t') {names start : List String} (hwalk : names.foldlM t.step start = .ok place) :
    names.foldlM t'.step start = .ok place := by
  induction names generalizing start with
  | nil => exact hwalk
  | cons name names ih =>
    rw [List.foldlM_cons] at hwalk ⊢
    cases hstep : t.step start name with
    | error o =>
      rw [hstep] at hwalk
      cases hwalk
    | ok next =>
      rw [hstep] at hwalk
      rw [h.step hstep]
      exact ih hwalk

/-- **Paths lead where they led.** -/
theorem Grows.walk (h : Grows t t') {names : List String} (hwalk : t.walk names = .ok place) :
    t'.walk names = .ok place :=
  h.walkFrom hwalk

theorem Grows.locate (h : Grows t t') (hlocate : t.locate path = .ok place) : t'.locate path = .ok place := by
  obtain ⟨hpath, hnul, hwalk⟩ := locate_eq_ok hlocate
  rw [locate_eq_walk hpath hnul]
  exact h.walk hwalk

/-! ## Files that are written -/

/-- a path leads to what is put at its target -/
theorem locate_of_target (htarget : t.target path = .ok place) (hplace : t.get? place ≠ some .directory)
    (e : Entry) : (t.put place e).locate path = .ok place := by
  have hgrows := grows_put hplace e
  rcases target_eq_ok htarget with hlocate | ⟨hnul, names, name, around, hnames, hdots, hwalk, haround, rfl⟩
  · exact hgrows.locate hlocate
  · have hpath : path ≠ "" := by
      rintro rfl
      have hlast : "" = name := by
        simpa using congrArg List.getLast? (show [""] = names ++ [name] from hnames)
      rw [← hlast] at hdots
      cases hdots
    have hentry : ((t.put (around ++ [name]) e).get? (around ++ [name])).isSome = true := by
      rw [get?_put _ _ _ _ (ne_top hplace), if_pos rfl]
      rfl
    have hwalked := hgrows.walk hwalk
    rw [Tree.walk] at hwalked
    rw [locate_eq_walk hpath hnul, hnames, Tree.walk, List.foldlM_append, hwalked]
    show [name].foldlM (t.put (around ++ [name]) e).step around = _
    rw [List.foldlM_cons, step_of_isSome (hgrows.directories _ haround) hdots hentry]
    rfl

/-- **A file is read back from the path that it was written to.** -/
theorem read_of_write (h : t.write path content = .ok t') : t'.read path = .ok content := by
  obtain ⟨place, hfilePlace, rfl⟩ := write_eq_ok h
  obtain ⟨htarget, hplace⟩ := filePlace_eq_ok hfilePlace
  refine read_eq_ok_iff.2 ⟨place, locate_of_target htarget hplace _, ?_⟩
  rw [get?_put _ _ _ _ (ne_top hplace), if_pos rfl]

theorem put_put (t : Tree) (place : List String) (d e : Entry) : (t.put place d).put place e = t.put place e := by
  simp [put, List.filter_filter]

/-- a file goes again to the place where it is -/
theorem filePlace_put (h : t.filePlace path = .ok place) : (t.put place (.file content)).filePlace path = .ok place := by
  obtain ⟨htarget, hplace⟩ := filePlace_eq_ok h
  have hagain : (t.put place (.file content)).target path = .ok place := by
    rw [target, locate_of_target htarget hplace]
  have hfile : (t.put place (.file content)).get? place ≠ some .directory := by
    rw [get?_put _ _ _ _ (ne_top hplace), if_pos rfl]
    nofun
  unfold filePlace at h ⊢
  split_ifs at h ⊢ with hnul hslash
  · cases hwalk : t.walk (((namesOf path).reverse.dropWhile (· = "")).tail.reverse ++ ["."]) with
    | error o =>
      rw [hwalk] at h
      cases h
    | ok _ =>
      rw [hwalk] at h
      cases h
  · rw [hagain]
    exact if_neg hfile

/-- **To write a file again changes nothing.** -/
theorem write_again (h : t.write path content = .ok t') : t'.write path content = .ok t' := by
  obtain ⟨place, hfilePlace, rfl⟩ := write_eq_ok h
  rw [write, filePlace_put hfilePlace]
  exact congrArg Except.ok (put_put t place _ _)

end SchemaTypings.Workspace.Tree
