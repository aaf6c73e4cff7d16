/-
Paths are read back from their texts.

The names of a path are not empty, are no dots and have no slashes (`IsName`), so that they are the pieces between the
slashes of its text. A text in the form in which messages show it is thus the same path (`ofText_showPath`).
-/
import SchemaTypings.Proofs.Text.Pieces
import SchemaTypings.Workspace.Path

namespace SchemaTypings

/-! ## Names -/

namespace Workspace

structure IsName (n : String) : Prop where
  ne_empty : n ≠ ""
  ne_dot : n ≠ "."
  slash : '/' ∉ n.toList

theorem namesOf_intercalate {names : List String} (hne : names ≠ []) (hnames : ∀ n ∈ names, IsName n) :
    namesOf ("/".intercalate names) = names := by
  have hpieces : ∀ p ∈ names.map String.toList, '/' ∉ p := by
    intro p hp
    obtain ⟨n, hn, rfl⟩ := List.mem_map.1 hp
    exact (hnames n hn).slash
  have hslash : "/".toList = ['/'] := rfl
  rw [namesOf, String.toList_intercalate, hslash, List.splitOn_intercalate '/' hpieces (by simpa using hne), List.map_map]
  simp [Function.comp_def]

/-- names that count are all that there are -/
theorem filter_names {names : List String} (hnames : ∀ n ∈ names, IsName n) :
    (namesOf ("/".intercalate names)).filter (fun n => decide (n ≠ "" ∧ n ≠ ".")) = names := by
  by_cases hne : names = []
  · rw [hne]
    rfl
  · rw [namesOf_intercalate hne hnames]
    exact List.filter_eq_self.2 fun n hn => by simp [(hnames n hn).ne_empty, (hnames n hn).ne_dot]

theorem isName_of_mem_ofText {text n : String} (h : n ∈ (Path.ofText text).names) : IsName n := by
  obtain ⟨hmem, hkept⟩ := List.mem_filter.1 h
  rw [decide_eq_true_eq] at hkept
  obtain ⟨p, hp, rfl⟩ := List.mem_map.1 hmem
  refine ⟨hkept.1, hkept.2, ?_⟩
  rw [String.toList_ofList]
  exact Text.notMem_of_mem_splitOn hp

/-- the characters of a name are those of the text -/
theorem mem_of_mem_ofText {text n : String} (h : n ∈ (Path.ofText text).names) {c : Char} (hc : c ∈ n.toList) :
    c ∈ text.toList := by
  obtain ⟨p, hp, rfl⟩ := List.mem_map.1 (List.mem_filter.1 h).1
  rw [String.toList_ofList] at hc
  have hmem : c ∈ ['/'].intercalate (text.toList.splitOn '/') := Text.mem_intercalate hp hc
  rwa [List.intercalate_splitOn] at hmem

/-- a name in a row of names starts with no slash -/
theorem head?_intercalate {names : List String} (hnames : ∀ n ∈ names, IsName n) :
    ("/".intercalate names).toList.head? ≠ some '/' := by
  have hslash : "/".toList = ['/'] := rfl
  rw [String.toList_intercalate, hslash]
  cases names with
  | nil => simp
  | cons n names =>
    obtain ⟨hn, _⟩ := List.forall_mem_cons.1 hnames
    obtain ⟨c, cs, hc⟩ := List.exists_cons_of_ne_nil fun h => hn.ne_empty (String.toList_eq_nil_iff.1 h)
    have hne : c ≠ '/' := by
      rintro rfl
      exact hn.slash (by rw [hc]; exact List.mem_cons_self)
    cases names <;> simpa [hc] using hne

theorem ofText_root {cs : List Char} (hcs : cs.head? ≠ some '/') (r : Root) : Root.ofText (r.text.toList ++ cs) = r := by
  have hslashes : ∀ c ∈ r.text.toList, decide (c = '/') = true := by
    cases r <;> simp [Root.text]
  have hrest : cs.takeWhile (fun c => decide (c = '/')) = [] := by
    cases cs with
    | nil => rfl
    | cons c cs => exact List.takeWhile_cons_of_neg (by simpa using hcs)
  rw [Root.ofText, List.takeWhile_append_of_pos hslashes, hrest, List.append_nil]
  cases r <;> rfl

/-- the names before the first one are empty -/
theorem namesOf_root (r : Root) (text : String) : ∃ empty, (∀ n ∈ empty, n = "") ∧ namesOf (r.text ++ text) = empty ++ namesOf text := by
  have hcut (cs : List Char) : ('/' :: cs).splitOn '/' = [] :: cs.splitOn '/' :=
    @List.splitOn_append_cons_self_of_not_mem Char [] _ _ '/' List.not_mem_nil cs
  cases r with
  | none => exact ⟨[], by simp, by simp [Root.text]⟩
  | slash => exact ⟨[""], by simp, by simp [Root.text, namesOf, hcut]⟩
  | slashes => exact ⟨["", ""], by simp, by simp [Root.text, namesOf, hcut]⟩

/-- **A path is read back from its text.** -/
theorem ofText_text {p : Path} (hnames : ∀ n ∈ p.names, IsName n) : Path.ofText p.text = p := by
  obtain ⟨root, names⟩ := p
  rw [Path.text]
  split_ifs with hdot
  · obtain ⟨rfl, rfl⟩ : root = .none ∧ names = [] := hdot
    rfl
  · obtain ⟨empty, hempty, hcut⟩ := namesOf_root root ("/".intercalate names)
    have hnone : empty.filter (fun n => decide (n ≠ "" ∧ n ≠ ".")) = [] :=
      List.filter_eq_nil_iff.2 fun n hn => by simp [hempty n hn]
    rw [Path.ofText, String.toList_append, ofText_root (head?_intercalate hnames), hcut, List.filter_append, hnone,
      List.nil_append, filter_names hnames]

/-- **What messages show is the same path.** -/
@[simp]
theorem ofText_showPath (text : String) : Path.ofText (showPath text) = Path.ofText text :=
  ofText_text fun _ hn => isName_of_mem_ofText hn

/-- no NUL is shown where there is none -/
theorem hasNul_showPath {text : String} (h : hasNul text = false) : hasNul (showPath text) = false := by
  rw [hasNul, List.contains_eq_mem, decide_eq_false_iff_not] at h ⊢
  rw [showPath, Path.text]
  split_ifs with hdot
  · decide
  · have hslash : "/".toList = ['/'] := rfl
    rw [String.toList_append, List.mem_append, String.toList_intercalate, hslash]
    rintro (hroot | hnames)
    · revert hroot
      cases (Path.ofText text).root <;> decide
    · rcases Text.mem_or_of_mem_intercalate hnames with hsep | ⟨cs, hcs, hc⟩
      · revert hsep
        decide
      · obtain ⟨n, hn, rfl⟩ := List.mem_map.1 hcs
        exact h (mem_of_mem_ofText hn hc)

end Workspace

end SchemaTypings
