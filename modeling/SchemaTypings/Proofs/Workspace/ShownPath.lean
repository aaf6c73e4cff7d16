/-
Paths as they are shown lead to the same places.

Empty names and single dots are left out of a path that is shown. Where the path led somewhere they changed nothing
(`walk_filter`), so the path that is shown leads there too (`locate_showPath`), and the same file is read (`read_showPath`).
A path can lead to one place only, in all trees (`eq_denoted`), and to the same one as it is shown (`denoted_showPath`).
-/
import SchemaTypings.Proofs.Workspace.Directories

namespace SchemaTypings.Workspace

variable {t : Tree} {path : String} {place start : List String} {bytes : ByteArray}

/-- empty names and dots may be left out on a way that leads somewhere -/
theorem walk_filter {names : List String} (h : names.foldlM t.step start = .ok place) :
    (names.filter fun n => decide (n ≠ "" ∧ n ≠ ".")).foldlM t.step start = .ok place := by
  induction names generalizing start with
  | nil => exact h
  | cons n names ih =>
    rw [List.foldlM_cons] at h
    cases hstep : t.step start n with
    | error o =>
      rw [hstep] at h
      cases h
    | ok next =>
      rw [hstep] at h
      have hrest := ih h
      obtain ⟨_, ⟨hdot, rfl⟩ | ⟨rfl, rfl⟩ | ⟨hdots, rfl, _⟩⟩ := Tree.step_eq_ok hstep
      · rw [List.filter_cons_of_neg (by simpa using fun hne => hdot.resolve_left hne)]
        exact hrest
      · rw [List.filter_cons_of_pos (by decide), List.foldlM_cons, hstep]
        exact hrest
      · have hname : n ≠ "" ∧ n ≠ "." := by
          simp only [Tree.isDots, Bool.or_eq_false_iff, decide_eq_false_iff_not] at hdots
          exact hdots.1
        rw [List.filter_cons_of_pos (by simpa using hname), List.foldlM_cons, hstep]
        exact hrest

/-- the names of the text of a path are its own, after empty ones and dots -/
theorem namesOf_text {p : Path} (hnames : ∀ n ∈ p.names, IsName n) :
    p.text ≠ "" ∧ ∃ dots : List String, (∀ n ∈ dots, n = "" ∨ n = ".") ∧ namesOf p.text = dots ++ p.names := by
  obtain ⟨root, names⟩ := p
  dsimp only at hnames
  by_cases hne : names = []
  · subst hne
    cases root with
    | none => exact ⟨by decide, ["."], by simp, by decide +kernel⟩
    | slash => exact ⟨by decide, ["", ""], by simp, by decide +kernel⟩
    | slashes => exact ⟨by decide, ["", "", ""], by simp, by decide +kernel⟩
  · have htext : Path.text ⟨root, names⟩ = root.text ++ "/".intercalate names := if_neg fun hdot => hne hdot.2
    obtain ⟨empty, hempty, hcut⟩ := namesOf_root root ("/".intercalate names)
    rw [htext, hcut, namesOf_intercalate hne hnames]
    refine ⟨fun hnil => ?_, empty, fun n hn => .inl (hempty n hn), rfl⟩
    have hchars := congrArg String.toList hnil
    rw [String.toList_append, String.toList_empty] at hchars
    exact toList_intercalate_ne_nil hne hnames (List.append_eq_nil_iff.1 hchars).2

/-- empty names and dots lead nowhere else from the top -/
theorem walk_dots {names : List String} (h : ∀ n ∈ names, n = "" ∨ n = ".") : names.foldlM t.step [] = .ok [] := by
  induction names with
  | nil => rfl
  | cons n names ih =>
    obtain ⟨hn, hrest⟩ := List.forall_mem_cons.1 h
    have hstep : t.step [] n = .ok [] := by
      rw [Tree.step, t.get?_top]
      exact if_pos hn
    rw [List.foldlM_cons, hstep]
    exact ih hrest

/-- what messages show of a path leads to the same place -/
theorem locate_showPath (h : t.locate path = .ok place) : t.locate (showPath path) = .ok place := by
  obtain ⟨_, hnul, hwalk⟩ := Tree.locate_eq_ok h
  obtain ⟨hne, dots, hdots, hnames⟩ :=
    namesOf_text (p := Path.ofText path) fun _ hn => isName_of_mem_ofText hn
  rw [showPath, Tree.locate_eq_walk hne (hasNul_showPath hnul), Tree.walk, hnames, List.foldlM_append, walk_dots hdots]
  show (Path.ofText path).names.foldlM t.step [] = .ok place
  exact walk_filter hwalk

theorem read_showPath (h : t.read path = .ok bytes) : t.read (showPath path) = .ok bytes := by
  obtain ⟨place, hlocate, hplace⟩ := Tree.read_eq_ok_iff.1 h
  exact Tree.read_eq_ok_iff.2 ⟨place, locate_showPath hlocate, hplace⟩

/-! ## Places that paths denote -/

/-- where a name leads from a place, if it leads anywhere -/
def enter (place : List String) (name : String) : List String :=
  if name = "" ∨ name = "." then place
  else if name = ".." then place.dropLast
  else place ++ [name]

/-- the only place to which a path can lead -/
def denoted (path : String) : List String := (namesOf path).foldl enter []

theorem eq_enter_of_step {name : String} {next : List String} (h : t.step place name = .ok next) :
    next = enter place name := by
  obtain ⟨_, ⟨hdot, rfl⟩ | ⟨rfl, rfl⟩ | ⟨hdots, rfl, _⟩⟩ := Tree.step_eq_ok h
  · exact (if_pos hdot).symm
  · rfl
  · simp only [Tree.isDots, Bool.or_eq_false_iff, decide_eq_false_iff_not] at hdots
    rw [enter, if_neg (not_or.2 hdots.1), if_neg hdots.2]

theorem eq_foldl_enter {names : List String} (h : names.foldlM t.step start = .ok place) :
    place = names.foldl enter start := by
  induction names generalizing start with
  | nil => exact (Except.ok.inj h).symm
  | cons n names ih =>
    rw [List.foldlM_cons] at h
    cases hstep : t.step start n with
    | error o =>
      rw [hstep] at h
      cases h
    | ok next =>
      rw [hstep] at h
      rw [List.foldl_cons, ← eq_enter_of_step hstep]
      exact ih h

/-- **A path that leads anywhere leads to the place that it denotes.** -/
theorem eq_denoted (h : t.locate path = .ok place) : place = denoted path :=
  eq_foldl_enter (Tree.locate_eq_ok h).2.2

/-- empty names and dots are no part of what is denoted -/
theorem foldl_enter_filter (names start : List String) :
    (names.filter fun n => decide (n ≠ "" ∧ n ≠ ".")).foldl enter start = names.foldl enter start := by
  rw [List.foldl_filter]
  congr 1
  funext place n
  by_cases hdot : n = "" ∨ n = "."
  · have hleft : ¬(n ≠ "" ∧ n ≠ ".") := by rwa [← not_or, not_not]
    simp only [hleft, decide_false, Bool.false_eq_true, if_false, enter, hdot, if_true]
  · simp only [not_or.1 hdot, ne_eq, not_false_eq_true, and_self, decide_true, if_true]

theorem foldl_names (path : String) : (Path.ofText path).names.foldl enter [] = denoted path :=
  foldl_enter_filter (namesOf path) []

/-- **A path denotes the same place as it is shown.** -/
@[simp]
theorem denoted_showPath (path : String) : denoted (showPath path) = denoted path := by
  rw [← foldl_names, ofText_showPath, foldl_names]

end SchemaTypings.Workspace
