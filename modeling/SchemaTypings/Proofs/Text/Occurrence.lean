/-
How often a word stands in a text.

A character that the word does not have cuts a text into parts that are counted apart (`occurrences_append_cons`). A word
with a mark is found by the marks of the text: at each of them it stands at most once so that its first mark is this one,
namely if what is before and after the mark fits (`occurrences_append_inner`).
-/
import Mathlib.Tactic
import SchemaTypings.Proofs.Text.Span

namespace SchemaTypings.Text

variable {word w as bs : List Char} {c mark : Char}

/-- a character out of a class is not among characters of it -/
theorem notMem_of_all {p : Char → Bool} (hc : p c = false) (h : ∀ d ∈ as, p d = true) : c ∉ as := by
  intro hmem
  rw [h c hmem] at hc
  cases hc

/-- the number of places of a text at which a word starts -/
def occurrences (word text : List Char) : Nat := text.tails.countP (word.isPrefixOf ·)

theorem occurrences_nil (hne : word ≠ []) : occurrences word [] = 0 := by
  simpa [occurrences, List.countP_cons] using hne

theorem occurrences_cons (word : List Char) (c : Char) (cs : List Char) :
    occurrences word (c :: cs) = (if word <+: c :: cs then 1 else 0) + occurrences word cs := by
  rw [occurrences, List.tails_cons, List.countP_cons, Nat.add_comm]
  simp only [List.isPrefixOf_iff_prefix]
  rfl

theorem prefix_append_cons_iff (hc : c ∉ word) (as bs : List Char) : word <+: as ++ c :: bs ↔ word <+: as := by
  refine ⟨fun h => ?_, fun h => h.trans (List.prefix_append _ _)⟩
  rcases Nat.lt_or_ge as.length word.length with hlt | hle
  · have hlonger : as ++ [c] <+: word := by
      refine List.prefix_of_prefix_length_le ⟨bs, by simp⟩ h ?_
      rw [List.length_append, List.length_singleton]
      exact hlt
    exact absurd (hlonger.subset (List.mem_append_right as List.mem_cons_self)) hc
  · exact List.prefix_of_prefix_length_le h (List.prefix_append _ _) hle

/-- **A character that is not in the word cuts the text.** -/
theorem occurrences_append_cons (hne : word ≠ []) (hc : c ∉ word) (as bs : List Char) :
    occurrences word (as ++ c :: bs) = occurrences word as + occurrences word bs := by
  induction as with
  | nil =>
    have hstart : ¬ word <+: c :: bs := fun h => hne (List.prefix_nil.1 ((prefix_append_cons_iff hc [] bs).1 h))
    rw [List.nil_append, occurrences_cons, if_neg hstart, occurrences_nil hne]
  | cons a as ih =>
    have hstart : word <+: a :: (as ++ c :: bs) ↔ word <+: a :: as := prefix_append_cons_iff hc (a :: as) bs
    rw [List.cons_append, occurrences_cons, occurrences_cons, ih, Nat.add_assoc]
    simp only [hstart]

theorem occurrences_eq_zero (hc : c ∈ word) (has : c ∉ as) : occurrences word as = 0 := by
  refine List.countP_eq_zero.2 fun t ht hprefix => has ?_
  exact ((List.mem_tails _ _).1 ht).subset ((List.isPrefixOf_iff_prefix.1 hprefix).subset hc)

theorem prefix_mark_iff (hw : mark ∉ w) (has : mark ∉ as) (v bs : List Char) :
    w ++ mark :: v <+: as ++ mark :: bs ↔ w = as ∧ v <+: bs := by
  constructor
  · rintro ⟨r, hr⟩
    rw [List.append_assoc] at hr
    have hother : ∀ {l : List Char}, mark ∉ l → ∀ c ∈ l, decide (c ≠ mark) = true :=
      fun hl c hc => decide_eq_true fun h => hl (h ▸ hc)
    obtain ⟨rfl, hrest⟩ := append_inj_of_stop (hother hw) (hother has) (by simp) (by simp) hr
    exact ⟨rfl, r, (List.cons.inj hrest).2⟩
  · rintro ⟨rfl, r, rfl⟩
    exact ⟨r, by simp⟩

/-- **A word with a mark is found at the marks of a text.** At the first one it stands if what is before the mark ends with
the part of the word before its own first mark, and what is after it starts with the rest of the word. -/
theorem occurrences_append_inner (hw : mark ∉ w) (has : mark ∉ as) (v bs : List Char) :
    occurrences (w ++ mark :: v) (as ++ mark :: bs) =
      (if w <:+ as ∧ v <+: bs then 1 else 0) + occurrences (w ++ mark :: v) bs := by
  induction as with
  | nil =>
    have hstart : w ++ mark :: v <+: mark :: bs ↔ w = [] ∧ v <+: bs := prefix_mark_iff hw has v bs
    rw [List.nil_append, occurrences_cons]
    simp only [hstart, List.suffix_nil]
  | cons a as ih =>
    have hstart : w ++ mark :: v <+: a :: (as ++ mark :: bs) ↔ w = a :: as ∧ v <+: bs := prefix_mark_iff hw has v bs
    rw [List.cons_append, occurrences_cons, ih fun h => has (List.mem_cons_of_mem a h)]
    simp only [hstart, List.suffix_cons_iff]
    by_cases hwhole : w = a :: as
    · -- the whole is not a suffix of its tail
      have htail : ¬ w <:+ as := fun h => by
        have hlength := h.length_le
        rw [hwhole, List.length_cons] at hlength
        omega
      simp [hwhole ▸ htail, hwhole]
    · simp [hwhole]

/-- a word that ends with a mark stands before the mark or not at all -/
theorem occurrences_append_mark (hw : mark ∉ w) (has : mark ∉ as) (bs : List Char) :
    occurrences (w ++ [mark]) (as ++ mark :: bs) =
      (if w <:+ as then 1 else 0) + occurrences (w ++ [mark]) bs := by
  rw [occurrences_append_inner hw has]
  simp only [List.nil_prefix, and_true]

end SchemaTypings.Text
