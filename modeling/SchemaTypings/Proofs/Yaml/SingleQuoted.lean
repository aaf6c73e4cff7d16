/-
Texts within single quotes are read back, if they are printable and have no blanks next to line ends.

A run of line ends is written with one more, and the next line is indented: `readQuoted_writeSingle` is by induction on
the text, together with what `readBreaks?` finds after a line end.
-/
import SchemaTypings.Proofs.Yaml.Ascii
import SchemaTypings.Proofs.Yaml.Quoted

namespace SchemaTypings.Yaml

open SchemaTypings.Text

/-- what is written after a line end -/
def afterBreak (column : Nat) (cs : List Char) : List Char :=
  if cs.head? = some '\n' then writeSingle column true cs else foldedLine ++ writeSingle foldIndent true cs

theorem writeSingle_break (column : Nat) (inner : Bool) (cs : List Char) :
    writeSingle column inner ('\n' :: cs) = '\n' :: afterBreak column cs := by
  rw [writeSingle, if_pos rfl]
  rfl

theorem isSpace_of_isBasic {c : Char} (h : isBasic c = true) (hb : c ≠ '\n') (hc : c ≠ ' ') : isSpace c = false :=
  isSpace_of_isAsciiPrintable (isAsciiPrintable_of_isBasic h hb) hc

/-- what a character makes the writer do, line ends apart -/
theorem writeSingle_cons (column : Nat) (inner : Bool) {c : Char} (hb : c ≠ '\n') (cs : List Char) :
    (c = ' ' ∧ inner = true ∧ cs ≠ [] ∧ cs.head? ≠ some ' ' ∧
      writeSingle column inner (c :: cs) = foldedLine ++ writeSingle foldIndent true cs) ∨
    (c = ' ' ∧ writeSingle column inner (c :: cs) = ' ' :: writeSingle (column + 1) false cs) ∨
    (c = '\x27' ∧ writeSingle column inner (c :: cs) = '\x27' :: '\x27' :: writeSingle (column + 2) true cs) ∨
    (c ≠ ' ' ∧ c ≠ '\x27' ∧ writeSingle column inner (c :: cs) = c :: writeSingle (column + 1) true cs) := by
  rw [writeSingle, if_neg hb]
  by_cases hblank : c = ' '
  · rw [if_pos hblank]
    split_ifs with hfold
    · exact .inl ⟨hblank, hfold.1, hfold.2.2.1, hfold.2.2.2, rfl⟩
    · exact .inr (.inl ⟨hblank, rfl⟩)
  · rw [if_neg hblank]
    split_ifs with hquote
    · exact .inr (.inr (.inl ⟨hquote, rfl⟩))
    · exact .inr (.inr (.inr ⟨hblank, hquote, rfl⟩))

theorem hasBlankAtBreak_tail {c : Char} {cs : List Char} (h : hasBlankAtBreak (c :: cs) = false) :
    hasBlankAtBreak cs = false := by
  cases cs with
  | nil => rfl
  | cons d ds =>
    rw [hasBlankAtBreak, Bool.or_eq_false_iff] at h
    exact h.2

theorem head?_of_blank {cs : List Char} (h : hasBlankAtBreak (' ' :: cs) = false) : cs.head? ≠ some '\n' := by
  cases cs with
  | nil => simp
  | cons d ds =>
    rw [List.head?_cons, ne_eq, Option.some.injEq]
    rintro rfl
    simp [hasBlankAtBreak, isBreak] at h

theorem head?_of_break {cs : List Char} (h : hasBlankAtBreak ('\n' :: cs) = false) : cs.head? ≠ some ' ' := by
  cases cs with
  | nil => simp
  | cons d ds =>
    rw [List.head?_cons, ne_eq, Option.some.injEq]
    rintro rfl
    simp [hasBlankAtBreak, isBreak] at h

/-- a quote or a character that is no space comes first, if the text starts with neither a blank nor a line end -/
theorem exists_writeSingle {cs : List Char} (hcs : ∀ c ∈ cs, isBasic c = true) (hbreak : cs.head? ≠ some '\n')
    (hblank : cs.head? ≠ some ' ') (column : Nat) (inner : Bool) (rest : List Char) :
    ∃ c r, writeSingle column inner cs ++ '\x27' :: rest = c :: r ∧ isSpace c = false := by
  cases cs with
  | nil => exact ⟨'\x27', rest, rfl, rfl⟩
  | cons c cs =>
    rw [List.head?_cons, ne_eq, Option.some.injEq] at hbreak hblank
    rcases writeSingle_cons column inner hbreak cs with ⟨hc, _⟩ | ⟨hc, _⟩ | ⟨hc, hw⟩ | ⟨_, _, hw⟩
    · exact absurd hc hblank
    · exact absurd hc hblank
    · exact ⟨_, _, by rw [hw]; rfl, rfl⟩
    · exact ⟨_, _, by rw [hw]; rfl, isSpace_of_isBasic (hcs c List.mem_cons_self) hbreak hblank⟩

/-- after a blank that is kept the line goes on -/
theorem goes_writeSingle {cs : List Char} (hcs : ∀ c ∈ cs, isBasic c = true) (hat : hasBlankAtBreak (' ' :: cs) = false)
    (column : Nat) (rest : List Char) :
    Goes (writeSingle column false cs ++ '\x27' :: rest) := by
  induction cs generalizing column with
  | nil => exact goes_cons rfl _
  | cons c cs ih =>
    have hbreak := head?_of_blank hat
    have htail := hasBlankAtBreak_tail hat
    rw [List.head?_cons, ne_eq, Option.some.injEq] at hbreak
    by_cases hc : c = ' '
    · subst hc
      have hrest := ih (fun d hd => hcs d (List.mem_cons_of_mem _ hd)) htail (column + 1)
      rw [writeSingle, if_neg hbreak, if_pos rfl, if_neg (by simp)]
      rwa [Goes, List.cons_append, List.dropWhile_cons_of_pos rfl]
    · obtain ⟨d, r, happ, hd⟩ := exists_writeSingle hcs (by simpa using hbreak) (by simpa using hc) column false rest
      rw [happ]
      exact goes_cons hd r

/-! ## Reading back -/

theorem readQuoted_doubledQuote (cs : List Char) :
    readQuoted false ('\x27' :: '\x27' :: cs) = preceded [.character '\x27'] (readQuoted false cs) := by
  have hquote : isSpace '\x27' = false := rfl
  conv_lhs => unfold readQuoted
  simp [hquote, preceded]

theorem readQuoted_closingQuote {rest : List Char} (hrest : rest.head? ≠ some '\x27') :
    readQuoted false ('\x27' :: rest) = .ok ([], rest) := by
  have hquote : isSpace '\x27' = false := rfl
  unfold readQuoted
  simp only [hquote, Bool.false_eq_true, dif_neg, not_false_eq_true, Bool.not_false, and_self, if_true]
  split
  · simp at hrest
  · rfl

/-- a line end that is followed by an indent only is a blank -/
theorem readQuoted_foldedLine {double : Bool} {c : Char} {cs : List Char} (hc : isSpace c = false) :
    readQuoted double (foldedLine ++ c :: cs) = preceded [.character ' '] (readQuoted double (c :: cs)) :=
  readQuoted_break (readBreaks?_blanks hc)

/-- after a line end that no other follows there is one more, and an indent -/
theorem readBreaks?_afterBreak {cs : List Char} (hcs : ∀ c ∈ cs, isBasic c = true) (hbreak : cs.head? ≠ some '\n')
    (hblank : cs.head? ≠ some ' ') (column : Nat) (rest : List Char) :
    readBreaks? (afterBreak column cs ++ '\x27' :: rest) =
      some (['\n'], writeSingle foldIndent true cs ++ '\x27' :: rest) := by
  obtain ⟨c, r, happ, hc⟩ := exists_writeSingle hcs hbreak hblank foldIndent true rest
  rw [afterBreak, if_neg hbreak, List.append_assoc, happ]
  show readBreaks? ('\n' :: ' ' :: ' ' :: c :: r) = _
  rw [readBreaks?_break, readBreaks?_blanks hc]
  rfl

/-- what is read of a text, and after a line end of a text without blank at its start: `bs` are the line ends there -/
theorem readQuoted_writeSingle_and {cs rest : List Char} (hrest : rest.head? ≠ some '\x27')
    (hcs : ∀ c ∈ cs, isBasic c = true) (hat : hasBlankAtBreak cs = false) :
    (∀ column inner, readQuoted false (writeSingle column inner cs ++ '\x27' :: rest) = .ok (pieces cs, rest)) ∧
      (cs.head? ≠ some ' ' → ∀ column, ∃ bs r,
        readBreaks? (afterBreak column cs ++ '\x27' :: rest) = some ('\n' :: bs, r) ∧
        preceded (pieces bs) (readQuoted false r) = .ok (pieces cs, rest)) := by
  induction cs with
  | nil =>
    have hend : ∀ column inner,
        readQuoted false (writeSingle column inner [] ++ '\x27' :: rest) = .ok (pieces [], rest) :=
      fun _ _ => readQuoted_closingQuote hrest
    refine ⟨hend, fun _ column => ⟨[], _, readBreaks?_afterBreak (by simp) (by simp) (by simp) column rest, ?_⟩⟩
    rw [hend]
    rfl
  | cons c cs ih =>
    have htail := hasBlankAtBreak_tail hat
    obtain ⟨ihRead, ihBreak⟩ := ih (fun d hd => hcs d (List.mem_cons_of_mem c hd)) htail
    by_cases hbreak : c = '\n'
    · subst hbreak
      have hnext := ihBreak (head?_of_break hat)
      refine ⟨fun column inner => ?_, fun _ column => ?_⟩
      · obtain ⟨bs, r, hbs, hr⟩ := hnext column
        rw [writeSingle_break, List.cons_append, readQuoted_break hbs]
        have hfold : foldBreaks '\n' ('\n' :: bs) = '\n' :: bs := rfl
        rw [hfold]
        exact preceded_pieces_cons hr '\n'
      · obtain ⟨bs, r, hbs, hr⟩ := hnext column
        rw [afterBreak, List.head?_cons, if_pos rfl, writeSingle_break, List.cons_append, readBreaks?_break, hbs]
        exact ⟨'\n' :: bs, r, rfl, preceded_pieces_cons hr '\n'⟩
    · have hread : ∀ column inner,
          readQuoted false (writeSingle column inner (c :: cs) ++ '\x27' :: rest) = .ok (pieces (c :: cs), rest) := by
        intro column inner
        rcases writeSingle_cons column inner hbreak cs with
          ⟨rfl, _, _, hblank, hw⟩ | ⟨rfl, hw⟩ | ⟨rfl, hw⟩ | ⟨hblank, hquote, hw⟩
        · obtain ⟨d, r, happ, hd⟩ := exists_writeSingle (fun d hd => hcs d (List.mem_cons_of_mem _ hd))
            (head?_of_blank hat) hblank foldIndent true rest
          rw [hw, List.append_assoc, happ, readQuoted_foldedLine hd, ← happ, ihRead]
          rfl
        · rw [hw, List.cons_append, readQuoted_blank rfl
            (goes_writeSingle (fun d hd => hcs d (List.mem_cons_of_mem _ hd)) hat _ rest), ihRead]
          rfl
        · rw [hw, List.cons_append, List.cons_append, readQuoted_doubledQuote, ihRead]
          rfl
        · have hplain : isPlainIn false c = true := by
            simp [isPlainIn, isSpace_of_isBasic (hcs c List.mem_cons_self) hbreak hblank, hquote]
          rw [hw, List.cons_append, readQuoted_plain hplain, ihRead]
          rfl
      refine ⟨hread,
        fun hblank column => ⟨[], _, readBreaks?_afterBreak hcs (by simpa using hbreak) hblank column rest, ?_⟩⟩
      rw [hread]
      rfl

/-- **Single quotes keep the text.** What is written within single quotes is read back, up to the closing quote, if what
follows it is no quote. -/
theorem readQuoted_writeSingle {cs rest : List Char} (hcs : ∀ c ∈ cs, isBasic c = true)
    (hat : hasBlankAtBreak cs = false) (hrest : rest.head? ≠ some '\x27') (column : Nat) (inner : Bool) :
    readQuoted false (writeSingle column inner cs ++ '\x27' :: rest) = .ok (pieces cs, rest) :=
  (readQuoted_writeSingle_and hrest hcs hat).1 column inner

end SchemaTypings.Yaml
