/-
Pieces of a text.

A text is cut at each place of a character by `List.splitOn`. `paragraphs` cuts it at each empty line, that is where one LF
follows another: lines that are not empty make one paragraph (`paragraphs_lines`).
-/
import Mathlib.Tactic

namespace SchemaTypings.Text

/-! ## Pieces between the places of a character -/

theorem notMem_of_mem_splitOn {sep : Char} {p cs : List Char} (h : p ∈ cs.splitOn sep) : sep ∉ p := by
  induction cs generalizing p with
  | nil =>
    rw [List.splitOn_nil, List.mem_singleton] at h
    exact h ▸ List.not_mem_nil
  | cons c cs ih =>
    rw [List.splitOn_cons_eq_if_modifyHead] at h
    obtain ⟨q, qs, hs⟩ := List.exists_cons_of_ne_nil (List.splitOn_ne_nil sep cs)
    rw [hs] at h ih
    split_ifs at h with hc
    · rcases List.mem_cons.1 h with rfl | h
      · exact List.not_mem_nil
      · exact ih h
    · rcases List.mem_cons.1 h with rfl | h
      · exact List.not_mem_cons_of_ne_of_not_mem (fun heq => hc (beq_iff_eq.2 heq.symm)) (ih List.mem_cons_self)
      · exact ih (List.mem_cons_of_mem q h)

/-- what is in a piece is in the pieces put together -/
theorem mem_intercalate {sep p : List Char} {ps : List (List Char)} (hp : p ∈ ps) {c : Char} (hc : c ∈ p) :
    c ∈ sep.intercalate ps := by
  induction ps with
  | nil => exact absurd hp List.not_mem_nil
  | cons q qs ih =>
    cases qs with
    | nil =>
      rw [List.intercalate_singleton, ← List.mem_singleton.1 hp]
      exact hc
    | cons r rs =>
      rw [List.intercalate_cons_cons, List.mem_append, List.mem_append]
      rcases List.mem_cons.1 hp with rfl | hp
      · exact .inl (.inl hc)
      · exact .inr (ih hp)

/-- nothing else is, but for what is between them -/
theorem mem_or_of_mem_intercalate {sep : List Char} {ps : List (List Char)} {c : Char} (hc : c ∈ sep.intercalate ps) :
    c ∈ sep ∨ ∃ p ∈ ps, c ∈ p := by
  induction ps with
  | nil => exact absurd hc List.not_mem_nil
  | cons q qs ih =>
    cases qs with
    | nil =>
      rw [List.intercalate_singleton] at hc
      exact .inr ⟨q, List.mem_cons_self, hc⟩
    | cons r rs =>
      rw [List.intercalate_cons_cons, List.mem_append, List.mem_append] at hc
      rcases hc with (hc | hc) | hc
      · exact .inr ⟨q, List.mem_cons_self, hc⟩
      · exact .inl hc
      · exact (ih hc).imp_right fun ⟨p, hp, hcp⟩ => ⟨p, List.mem_cons_of_mem q hp, hcp⟩

/-- pieces that each end with the character are pieces with it between them, and one at the end -/
theorem flatMap_ended {sep : Char} {ps : List (List Char)} (hne : ps ≠ []) :
    (ps.flatMap fun p => p ++ [sep]) = [sep].intercalate ps ++ [sep] := by
  induction ps with
  | nil => exact absurd rfl hne
  | cons p ps ih =>
    cases ps with
    | nil => rw [List.flatMap_cons, List.flatMap_nil, List.append_nil, List.intercalate_singleton]
    | cons q qs => rw [List.flatMap_cons, ih (List.cons_ne_nil _ _), List.intercalate_cons_cons, List.append_assoc _ _ [sep]]

/-! ## Pieces between empty lines -/

/-- the pieces of a text between the places where one LF follows another -/
def paragraphs : List Char → List (List Char)
  | [] => [[]]
  | '\n' :: '\n' :: cs => [] :: paragraphs cs
  | c :: cs =>
    match paragraphs cs with
    | [] => [[c]]
    | p :: ps => (c :: p) :: ps

theorem paragraphs_ne_nil (cs : List Char) : paragraphs cs ≠ [] := by
  fun_induction paragraphs cs <;> simp

/-- a character that starts no empty line goes to the first piece -/
theorem paragraphs_cons {c : Char} {cs : List Char} (h : ¬(c = '\n' ∧ cs.head? = some '\n')) :
    paragraphs (c :: cs) = (paragraphs cs).modifyHead (c :: ·) := by
  rw [paragraphs]
  · cases hp : paragraphs cs with
    | nil => exact absurd hp (paragraphs_ne_nil cs)
    | cons p ps => rfl
  · rintro ds rfl rfl
    exact h ⟨rfl, rfl⟩

/-- so does a text without line ends -/
theorem paragraphs_append {l : List Char} (hl : '\n' ∉ l) (cs : List Char) :
    paragraphs (l ++ cs) = (paragraphs cs).modifyHead (l ++ ·) := by
  induction l with
  | nil => cases hp : paragraphs cs <;> simp [hp]
  | cons c l ih =>
    rw [List.mem_cons, not_or] at hl
    obtain ⟨hc, hrest⟩ := hl
    rw [List.cons_append, paragraphs_cons fun h => hc h.1.symm, ih hrest, List.modifyHead_modifyHead]
    rfl

/-- whether a text is a line that is not empty -/
def IsLine (l : List Char) : Prop := l ≠ [] ∧ '\n' ∉ l

/-- **Lines that are not empty make one piece.** -/
theorem paragraphs_lines {ls : List (List Char)} (hne : ls ≠ []) (hls : ∀ l ∈ ls, IsLine l) (cs : List Char) :
    paragraphs (['\n'].intercalate ls ++ '\n' :: '\n' :: cs) = ['\n'].intercalate ls :: paragraphs cs := by
  induction ls with
  | nil => exact absurd rfl hne
  | cons l ls ih =>
    obtain ⟨hl, hrest⟩ := List.forall_mem_cons.1 hls
    cases ls with
    | nil => rw [List.intercalate_singleton, paragraphs_append hl.2, paragraphs, List.modifyHead_cons, List.append_nil]
    | cons m ms =>
      -- the next line starts with a character of its own, so that the LF before it is no empty line
      have hstart : (['\n'].intercalate (m :: ms) ++ '\n' :: '\n' :: cs).head? ≠ some '\n' := by
        obtain ⟨hm, _⟩ := List.forall_mem_cons.1 hrest
        obtain ⟨c, m', rfl⟩ := List.exists_cons_of_ne_nil hm.1
        have hc : c ≠ '\n' := fun h => hm.2 (h ▸ List.mem_cons_self)
        cases ms <;> simpa using hc
      have hjoin : ['\n'].intercalate (l :: m :: ms) = l ++ '\n' :: ['\n'].intercalate (m :: ms) := by
        rw [List.intercalate_cons_cons, List.append_assoc, List.singleton_append]
      rw [hjoin, List.append_assoc, List.cons_append, paragraphs_append hl.2, paragraphs_cons fun h => hstart h.2,
        ih (List.cons_ne_nil _ _) hrest, List.modifyHead_cons, List.modifyHead_cons]

end SchemaTypings.Text
