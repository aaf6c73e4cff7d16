/-
A text and the same text with LF for every line end.

Line ends are one character or two, so that places move. `Reaches` says which places of a text are not between a CR and
its LF; there the line and the column are the same in both texts (`Reaches.locateFrom_unify`), and so are the lines
(`split_unify`). A class of characters without line ends cuts both texts at the same place (`takeWhile_unify`).
-/
import Mathlib.Tactic
import SchemaTypings.Proofs.Text.Span
import SchemaTypings.Text.Line

namespace SchemaTypings.Text.Line

theorem isEnd_iff {c : Char} : isEnd c = true ↔ c = '\n' ∨ c = '\r' := by
  rw [isEnd, Bool.or_eq_true, decide_eq_true_iff, decide_eq_true_iff]

theorem ne_cr {c : Char} (h : isEnd c = false) : c ≠ '\r' := by
  rintro rfl
  cases h

/-! ## Line ends written as LF -/

/-- whether a character is not the CR of a CR LF -/
def IsSingle (c : Char) (cs : List Char) : Prop := ¬(c = '\r' ∧ cs.head? = some '\n')

theorem isSingle_of_ne {c : Char} (h : c ≠ '\r') (cs : List Char) : IsSingle c cs := fun hc => h hc.1

theorem IsSingle.not_pair {c : Char} {cs : List Char} (h : IsSingle c cs) :
    ∀ us : List Char, c = '\r' → cs = '\n' :: us → False := by
  rintro us rfl rfl
  exact h ⟨rfl, rfl⟩

/-- a text is taken apart as its line ends are read: CR LF at once -/
@[elab_as_elim]
theorem unify_induction {motive : List Char → Prop} (cs : List Char) (nil : motive [])
    (pair : ∀ cs, motive cs → motive ('\r' :: '\n' :: cs))
    (single : ∀ c cs, IsSingle c cs → motive cs → motive (c :: cs)) : motive cs := by
  fun_induction unify cs with
  | case1 => exact nil
  | case2 cs ih => exact pair cs ih
  | case3 c cs hc ih =>
    refine single c cs ?_ ih
    rintro ⟨rfl, hhead⟩
    cases cs with
    | nil => cases hhead
    | cons d cs => exact hc cs rfl (by rw [Option.some.inj hhead])

@[simp]
theorem unify_pair (cs : List Char) : unify ('\r' :: '\n' :: cs) = '\n' :: unify cs := by
  rw [unify]

theorem unify_single {c : Char} {cs : List Char} (h : IsSingle c cs) :
    unify (c :: cs) = (if c = '\r' then '\n' else c) :: unify cs := by
  rw [unify]
  exact h.not_pair

@[simp]
theorem unify_cons {c : Char} (h : c ≠ '\r') (cs : List Char) : unify (c :: cs) = c :: unify cs := by
  rw [unify_single (isSingle_of_ne h cs), if_neg h]

theorem unify_append {us : List Char} (h : ∀ c ∈ us, c ≠ '\r') (cs : List Char) :
    unify (us ++ cs) = us ++ unify cs := by
  induction us with
  | nil => rfl
  | cons c us ih =>
    rw [List.cons_append, unify_cons (h c List.mem_cons_self), ih fun d hd => h d (List.mem_cons_of_mem c hd)]
    rfl

theorem head?_unify (cs : List Char) : (unify cs).head? = cs.head?.map fun c => if c = '\r' then '\n' else c := by
  fun_cases unify cs with
  | case1 => rfl
  | case2 cs => rfl
  | case3 c cs h => rfl

/-- a text that ends no line starts the unified text if it starts the text -/
theorem exists_of_unify_eq_append {us rest cs : List Char} (hus : ∀ c ∈ us, isEnd c = false)
    (h : unify cs = us ++ rest) : ∃ ds, cs = us ++ ds ∧ rest = unify ds := by
  induction us generalizing cs with
  | nil => exact ⟨cs, rfl, h.symm⟩
  | cons u us ih =>
    have hu := hus u List.mem_cons_self
    have hlf : u ≠ '\n' := by rintro rfl; cases hu
    induction cs using unify_induction with
    | nil => cases h
    | pair cs _ =>
      rw [unify_pair] at h
      exact absurd (List.cons.inj h).1.symm hlf
    | single c cs hc _ =>
      rw [unify_single hc, List.cons_append, List.cons.injEq] at h
      have hcu : c = u := by
        by_cases hcr : c = '\r'
        · rw [if_pos hcr] at h
          exact absurd h.1.symm hlf
        · rw [if_neg hcr] at h
          exact h.1
      obtain ⟨ds, rfl, hds⟩ := ih (fun c hc => hus c (List.mem_cons_of_mem u hc)) h.2
      exact ⟨ds, by rw [hcu]; rfl, hds⟩

/-! ## Lines -/

theorem isEnd_unified (c : Char) : isEnd (if c = '\r' then '\n' else c) = isEnd c := by
  split_ifs with h
  · subst h
    rfl
  · rfl

theorem isSingle_unified (c : Char) (cs : List Char) : IsSingle (if c = '\r' then '\n' else c) cs := by
  refine isSingle_of_ne ?_ cs
  split_ifs with h
  · decide
  · exact h

theorem split_end {c : Char} {cs : List Char} (h : IsSingle c cs) (hc : isEnd c = true) :
    split (c :: cs) = [] :: split cs := by
  rw [split, if_pos hc]
  exact h.not_pair

theorem split_cons {c : Char} {cs l : List Char} {ls : List (List Char)} (hc : isEnd c = false)
    (hls : split cs = l :: ls) : split (c :: cs) = (c :: l) :: ls := by
  rw [split, if_neg (by simp [hc]), hls]
  rintro us rfl
  cases hc

/-- **The lines of a text are the lines of the unified text.** -/
theorem split_unify (cs : List Char) : split (unify cs) = split cs := by
  induction cs using unify_induction with
  | nil => rfl
  | pair cs ih => rw [unify_pair, split_end (isSingle_of_ne (by decide) _) rfl, ih, split]
  | single c cs hc ih =>
    by_cases hend : isEnd c = true
    · rw [unify_single hc, split_end (isSingle_unified c _) ((isEnd_unified c).trans hend), split_end hc hend, ih]
    · have hplain : isEnd c = false := by simpa using hend
      have hne := ne_cr hplain
      obtain ⟨l, ls, hls⟩ : ∃ l ls, split cs = l :: ls := List.exists_cons_of_ne_nil (split_ne_nil cs)
      rw [unify_cons hne, split_cons hplain (ih.trans hls), split_cons hplain hls]

/-! ## Places -/

/-- the places of a text that are not between a CR and its LF, by what is left of it there -/
inductive Reaches : List Char → List Char → Prop where
  | refl (cs : List Char) : Reaches cs cs
  | pair {cs ds : List Char} : Reaches cs ds → Reaches ('\r' :: '\n' :: cs) ds
  | single {c : Char} {cs ds : List Char} : IsSingle c cs → Reaches cs ds → Reaches (c :: cs) ds

theorem Reaches.trans {bs cs ds : List Char} (h : Reaches bs cs) (h' : Reaches cs ds) : Reaches bs ds := by
  induction h with
  | refl _ => exact h'
  | pair _ ih => exact .pair (ih h')
  | single hc _ ih => exact .single hc (ih h')

theorem reaches_cons {c : Char} (h : c ≠ '\r') (cs : List Char) : Reaches (c :: cs) cs :=
  .single (isSingle_of_ne h cs) (.refl cs)

theorem reaches_append {us : List Char} (h : ∀ c ∈ us, c ≠ '\r') (cs : List Char) : Reaches (us ++ cs) cs := by
  induction us with
  | nil => exact .refl cs
  | cons c us ih =>
    have hrest := ih fun d hd => h d (List.mem_cons_of_mem c hd)
    exact (reaches_cons (h c List.mem_cons_self) _).trans hrest

@[simp]
theorem reaches_nil (cs : List Char) : Reaches cs [] := by
  induction cs using unify_induction with
  | nil => exact .refl []
  | pair cs ih => exact .pair ih
  | single c cs hc ih => exact .single hc ih

theorem Reaches.length_le {cs ds : List Char} (h : Reaches cs ds) :
    ds.length ≤ cs.length ∧ (unify ds).length ≤ (unify cs).length := by
  induction h with
  | refl _ => exact ⟨Nat.le_refl _, Nat.le_refl _⟩
  | pair _ ih =>
    rw [unify_pair, List.length_cons, List.length_cons, List.length_cons]
    omega
  | single hc _ ih =>
    rw [unify_single hc, List.length_cons, List.length_cons]
    omega

@[simp]
theorem locateFrom_zero (line column : Nat) (cs : List Char) : locateFrom line column cs 0 = ⟨line, column⟩ := by
  cases cs <;> rfl

theorem locateFrom_single {c : Char} {cs : List Char} (h : IsSingle c cs) (line column n : Nat) :
    locateFrom line column (c :: cs) (n + 1) =
      if isEnd c then locateFrom (line + 1) 1 cs n else locateFrom line (column + 1) cs n := by
  rw [locateFrom.eq_5]
  · exact fun us hcr hlf _ => h.not_pair us hcr hlf
  · exact fun us _ hcr hlf _ => h.not_pair us hcr hlf

/-- **Line and column of a place are those of the place in the unified text.** -/
theorem Reaches.locateFrom_unify {cs ds : List Char} (h : Reaches cs ds) (line column : Nat) :
    locateFrom line column (unify cs) ((unify cs).length - (unify ds).length) =
      locateFrom line column cs (cs.length - ds.length) := by
  induction h generalizing line column with
  | refl cs => rw [Nat.sub_self, Nat.sub_self, locateFrom_zero, locateFrom_zero]
  | @pair cs ds h ih =>
    obtain ⟨hle, hle'⟩ := h.length_le
    have hunified : (unify ('\r' :: '\n' :: cs)).length - (unify ds).length =
        (unify cs).length - (unify ds).length + 1 := by
      rw [unify_pair, List.length_cons]
      omega
    have hplain : ('\r' :: '\n' :: cs).length - ds.length = cs.length - ds.length + 2 := by
      simp only [List.length_cons]
      omega
    rw [hunified, hplain, unify_pair, locateFrom_single (isSingle_of_ne (by decide) _), if_pos (by rfl), ih, locateFrom]
  | @single c cs ds hc h ih =>
    obtain ⟨hle, hle'⟩ := h.length_le
    have hunified : (unify (c :: cs)).length - (unify ds).length = (unify cs).length - (unify ds).length + 1 := by
      rw [unify_single hc, List.length_cons]
      omega
    have hplain : (c :: cs).length - ds.length = cs.length - ds.length + 1 := by
      simp only [List.length_cons]
      omega
    rw [hunified, hplain, unify_single hc, locateFrom_single (isSingle_unified c _), locateFrom_single hc,
      isEnd_unified, ih, ih]

/-! ## Starts without line ends -/

/-- characters that end no lines start both texts or none -/
theorem start_unify {us : List Char} (hus : ∀ c ∈ us, isEnd c = false) (cs : List Char) :
    (∃ vs, cs = us ++ vs ∧ unify cs = us ++ unify vs ∧ Reaches cs vs) ∨
      (¬∃ vs, cs = us ++ vs) ∧ ¬∃ vs, unify cs = us ++ vs := by
  have hne : ∀ c ∈ us, c ≠ '\r' := fun c hc => ne_cr (hus c hc)
  by_cases hstart : ∃ vs, cs = us ++ vs
  · obtain ⟨vs, rfl⟩ := hstart
    exact .inl ⟨vs, rfl, unify_append hne vs, reaches_append hne vs⟩
  · refine .inr ⟨hstart, ?_⟩
    rintro ⟨vs, hvs⟩
    obtain ⟨ws, hws, _⟩ := exists_of_unify_eq_append hus hvs
    exact hstart ⟨ws, hws⟩

/-- a character that ends no line is first in both texts or in none -/
theorem first_unify {c : Char} (hc : isEnd c = false) (cs : List Char) :
    (∃ us, cs = c :: us ∧ unify cs = c :: unify us ∧ Reaches cs us) ∨
      cs.head? ≠ some c ∧ (unify cs).head? ≠ some c := by
  have hone : ∀ e ∈ [c], isEnd e = false := List.forall_mem_singleton.2 hc
  rcases start_unify hone cs with hstart | ⟨hnone, hnone'⟩
  · exact .inl hstart
  · refine .inr ⟨fun hhead => hnone ?_, fun hhead => hnone' ?_⟩
    · exact List.head?_eq_some_iff.1 hhead
    · exact List.head?_eq_some_iff.1 hhead

theorem prefix_unify {us cs : List Char} (hus : ∀ c ∈ us, isEnd c = false) : us <+: unify cs ↔ us <+: cs := by
  constructor
  · rintro ⟨rest, hrest⟩
    obtain ⟨ds, rfl, _⟩ := exists_of_unify_eq_append hus hrest.symm
    exact ⟨ds, rfl⟩
  · rintro ⟨ds, rfl⟩
    exact ⟨unify ds, (unify_append (fun c hc => ne_cr (hus c hc)) ds).symm⟩

/-! ## Classes of characters without line ends -/

section

variable {p : Char → Bool} (hcr : p '\r' = false) (hlf : p '\n' = false)

include hcr hlf

theorem head?_any_unify (cs : List Char) : (unify cs).head?.any p = cs.head?.any p := by
  rw [head?_unify]
  cases cs with
  | nil => rfl
  | cons c cs =>
    simp only [List.head?_cons, Option.map_some, Option.any_some]
    split_ifs with h
    · rw [h, hcr, hlf]
    · rfl

theorem takeWhile_unify (cs : List Char) :
    (unify cs).takeWhile p = cs.takeWhile p ∧ (unify cs).dropWhile p = unify (cs.dropWhile p) ∧
      Reaches cs (cs.dropWhile p) := by
  obtain ⟨us, vs, rfl, hus, hvs⟩ := exists_span p cs
  have hne : ∀ c ∈ us, c ≠ '\r' := by
    rintro c hc rfl
    rw [hus _ hc] at hcr
    cases hcr
  obtain ⟨htake, hdrop⟩ := takeWhile_append_stop hus hvs
  have hvs' : (unify vs).head?.any p = false := by rw [head?_any_unify hcr hlf, hvs]
  obtain ⟨htake', hdrop'⟩ := takeWhile_append_stop hus hvs'
  rw [unify_append hne, htake, hdrop, htake', hdrop']
  exact ⟨rfl, rfl, reaches_append hne vs⟩

end

end SchemaTypings.Text.Line
