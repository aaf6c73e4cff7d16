/-
Steps of reading a quoted scalar, each from what is read after it.

Blanks are read in runs, since a line end after them drops them. `readQuoted_blank` reads them one by one where a
character that is no line end comes after the run (`Goes`).
-/
import Mathlib.Tactic
import SchemaTypings.Yaml.Quoted

namespace SchemaTypings.Yaml

open SchemaTypings.Text

/-- whether a line goes on after blanks: some character follows them in it -/
def Goes (cs : List Char) : Prop := (cs.dropWhile isBlank).head?.any (!isBreak ·) = true

@[simp]
theorem goes_cons {c : Char} (hc : isSpace c = false) (cs : List Char) : Goes (c :: cs) := by
  rw [isSpace, Bool.or_eq_false_iff] at hc
  simp [Goes, hc]

theorem goes_append {l r : List Char} (hl : ∀ c ∈ l, isBreak c = false) (hr : Goes r) : Goes (l ++ r) := by
  induction l with
  | nil => exact hr
  | cons c l ih =>
    have hc := hl c List.mem_cons_self
    have hl := ih fun d hd => hl d (List.mem_cons_of_mem c hd)
    by_cases hb : isBlank c = true
    · rw [Goes, List.cons_append, List.dropWhile_cons_of_pos hb]
      exact hl
    · exact goes_cons (by simp [isSpace, hb, hc]) _

/-- what is read, with pieces before it -/
def preceded (ps : List Piece) (r : Except Fault (List Piece × List Char)) : Except Fault (List Piece × List Char) :=
  r.map fun (v, rest) => (ps ++ v, rest)

@[simp] theorem preceded_ok (ps qs : List Piece) (rest : List Char) :
    preceded ps (.ok (qs, rest)) = .ok (ps ++ qs, rest) := rfl

@[simp]
theorem preceded_nil (r : Except Fault (List Piece × List Char)) : preceded [] r = r := by
  cases r <;> rfl

@[simp]
theorem preceded_preceded (ps qs : List Piece) (r : Except Fault (List Piece × List Char)) :
    preceded ps (preceded qs r) = preceded (ps ++ qs) r := by
  cases r with
  | error f => rfl
  | ok p => simp [preceded]

theorem preceded_pieces_cons {x : Except Fault (List Piece × List Char)} {bs cs rest : List Char}
    (h : preceded (pieces bs) x = .ok (pieces cs, rest)) (c : Char) :
    preceded (pieces (c :: bs)) x = .ok (pieces (c :: cs), rest) := by
  have hpieces : pieces (c :: bs) = [.character c] ++ pieces bs := rfl
  rw [hpieces, ← preceded_preceded, h]
  rfl

/-! ## Characters -/

/-- characters that stand for themselves within quotes -/
def isPlainIn (double : Bool) (c : Char) : Bool :=
  !isSpace c && (if double then c ≠ '\x22' && c ≠ '\\' else c ≠ '\x27')

theorem readQuoted_plain {double : Bool} {c : Char} (hc : isPlainIn double c = true) (cs : List Char) :
    readQuoted double (c :: cs) = preceded [.character c] (readQuoted double cs) := by
  conv_lhs => unfold readQuoted
  cases double <;> simp_all [isPlainIn, preceded]

/-! ## Blanks and line ends -/

theorem readQuoted_gap {double : Bool} {c : Char} {cs r gap : List Char} (hc : isSpace c = true)
    (hgap : readGap? (c :: cs) = some (gap, r)) :
    readQuoted double (c :: cs) = preceded (pieces gap) (readQuoted double r) := by
  conv_lhs => unfold readQuoted
  simp only [hc, dif_pos]
  split
  · next hg => simp [hgap] at hg
  · next g x hg =>
    rw [hgap, Option.some.injEq, Prod.mk.injEq] at hg
    obtain ⟨rfl, rfl⟩ := hg
    rfl

theorem readGap?_of_goes {cs : List Char} (h : Goes cs) :
    readGap? cs = some (cs.takeWhile isBlank, cs.dropWhile isBlank) := by
  unfold readGap?
  unfold Goes at h
  split
  · next hd => simp [hd] at h
  · next c rest hd =>
    simp only [hd, List.head?_cons, Option.any_some, Bool.not_eq_true'] at h
    simp [h, hd]

theorem isSpace_of_isBlank {c : Char} (h : isBlank c = true) : isSpace c = true := by
  simp [isSpace, h]

/-- a blank where the line goes on is kept -/
theorem readQuoted_blank {double : Bool} {c : Char} {cs : List Char} (hc : isBlank c = true) (hgo : Goes cs) :
    readQuoted double (c :: cs) = preceded [.character c] (readQuoted double cs) := by
  have hgap : Goes (c :: cs) := by rwa [Goes, List.dropWhile_cons_of_pos hc]
  rw [readQuoted_gap (isSpace_of_isBlank hc) (readGap?_of_goes hgap), List.takeWhile_cons_of_pos hc,
    List.dropWhile_cons_of_pos hc]
  cases cs with
  | nil => simp [Goes] at hgo
  | cons d ds =>
    by_cases hd : isBlank d = true
    · -- the run goes on: the rest of it is read in the same way
      rw [readQuoted_gap (isSpace_of_isBlank hd) (readGap?_of_goes hgo), preceded_preceded]
      rfl
    · rw [List.takeWhile_cons_of_neg hd, List.dropWhile_cons_of_neg hd]
      rfl

/-! ## Lines -/

/-- the indent of a further line is dropped -/
theorem readBreaks?_blanks {c : Char} {cs : List Char} (hc : isSpace c = false) :
    readBreaks? (' ' :: ' ' :: c :: cs) = some ([], c :: cs) := by
  rw [isSpace, Bool.or_eq_false_iff] at hc
  have hmark : atDocumentMark (' ' :: ' ' :: c :: cs) = false := by simp [atDocumentMark]
  have hdrop : (' ' :: ' ' :: c :: cs).dropWhile isBlank = c :: cs := by
    rw [List.dropWhile_cons_of_pos rfl, List.dropWhile_cons_of_pos rfl, List.dropWhile_cons_of_neg (by simp [hc.1])]
  unfold readBreaks?
  simp only [hmark, Bool.false_eq_true, if_false]
  split
  · next hd => rw [hdrop] at hd; cases hd
  · next d ds hd =>
    rw [hdrop, List.cons.injEq] at hd
    obtain ⟨rfl, rfl⟩ := hd
    simp [hc.2]

theorem readBreaks?_break (cs : List Char) :
    readBreaks? ('\n' :: cs) = (readBreaks? cs).map fun (bs, r) => ('\n' :: bs, r) := by
  have hmark : atDocumentMark ('\n' :: cs) = false := by simp [atDocumentMark]
  have hdrop : ('\n' :: cs).dropWhile isBlank = '\n' :: cs := List.dropWhile_cons_of_neg (by decide)
  conv_lhs => unfold readBreaks?
  simp only [hmark, Bool.false_eq_true, if_false]
  split
  · next hd => rw [hdrop] at hd; cases hd
  · next d ds hd =>
    rw [hdrop, List.cons.injEq] at hd
    obtain ⟨rfl, rfl⟩ := hd
    rfl

/-- a line end and those after it, up to the first character of a further line -/
theorem readQuoted_break {double : Bool} {cs bs r : List Char} (h : readBreaks? cs = some (bs, r)) :
    readQuoted double ('\n' :: cs) = preceded (pieces (foldBreaks '\n' bs)) (readQuoted double r) := by
  refine readQuoted_gap rfl ?_
  have hdrop : ('\n' :: cs).dropWhile isBlank = '\n' :: cs := List.dropWhile_cons_of_neg (by decide)
  unfold readGap?
  rw [hdrop]
  simp [h, isBreak, breakValue]

end SchemaTypings.Yaml
