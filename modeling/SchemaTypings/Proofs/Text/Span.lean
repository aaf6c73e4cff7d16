/-
Texts cut at the first character that is not of a class.

`takeWhile_append_stop` cuts a text of the class from what follows it; `append_inj_of_stop`: two such texts are the same
if they are so with what follows.
-/
import Mathlib.Tactic

namespace SchemaTypings.Text

variable {α : Type} {p : α → Bool}

theorem takeWhile_append_stop {l rest : List α} (hl : ∀ a ∈ l, p a = true) (hr : rest.head?.any p = false) :
    (l ++ rest).takeWhile p = l ∧ (l ++ rest).dropWhile p = rest := by
  rw [List.takeWhile_append_of_pos hl, List.dropWhile_append_of_pos hl]
  cases rest with
  | nil => simp
  | cons a rest =>
    rw [List.head?_cons, Option.any_some] at hr
    simp [hr]

/-- any text is one of the class before one that does not start with the class -/
theorem exists_span (p : α → Bool) (l : List α) :
    ∃ a b, l = a ++ b ∧ (∀ x ∈ a, p x = true) ∧ b.head?.any p = false := by
  induction l with
  | nil => exact ⟨[], [], rfl, by simp, rfl⟩
  | cons x l ih =>
    cases hx : p x with
    | false => exact ⟨[], x :: l, rfl, by simp, hx⟩
    | true =>
      obtain ⟨a, b, hl, ha, hb⟩ := ih
      exact ⟨x :: a, b, by rw [hl]; rfl, List.forall_mem_cons.2 ⟨hx, ha⟩, hb⟩

/-- a text of the class and what follows it are known from both together -/
theorem append_inj_of_stop {l m r s : List α} (hl : ∀ a ∈ l, p a = true) (hm : ∀ a ∈ m, p a = true)
    (hr : r.head?.any p = false) (hs : s.head?.any p = false) (h : l ++ r = m ++ s) : l = m ∧ r = s := by
  obtain ⟨hl, hr⟩ := takeWhile_append_stop hl hr
  obtain ⟨hm, hs⟩ := takeWhile_append_stop hm hs
  exact ⟨hl.symm.trans (h ▸ hm), hr.symm.trans (h ▸ hs)⟩

end SchemaTypings.Text
