/-
Strings within double quotes are read back, halves of pairs among them.

`readQuoted_writeDouble_held` is by induction on the pieces, over what is held back of them. An escape is read as the
piece that it is written for, a fold as nothing. A fold drops the blanks that follow it, so that a blank there has a
mark of its own; before a line end that is no fold there are never blanks, since line ends are escaped.
-/
import SchemaTypings.Proofs.Yaml.Ascii
import SchemaTypings.Proofs.Yaml.Quoted

namespace SchemaTypings.Yaml

open SchemaTypings.Text

/-! ## Escapes -/

theorem escapeLetter?_of_letterOf? {c l : Char} (h : letterOf? c = some l) :
    escapeLetter? l = some c ∧ isBreak l = false := by
  unfold letterOf? at h
  iterate 15
    rcases eq_or_of_ite_eq_some h with ⟨rfl, rfl⟩ | h
    · exact ⟨rfl, rfl⟩
  cases h

theorem code_lt (p : Piece) : p.code < 0x110000 := by
  cases p with
  | character c =>
    have hvalid : c.toNat.isValidChar := c.valid
    simp only [Nat.isValidChar] at hvalid
    simp only [Piece.code]
    omega
  | half n =>
    have hn := n.property.2
    simp only [Piece.code]
    omega

/-- the number of a piece is read as the piece -/
theorem ofCodePoint_code (p : Piece) : ofCodePoint p.code = .ok p := by
  rw [ofCodePoint, if_pos (code_lt p), Piece.ofCode_code]

theorem readEscape_hex (width : Nat) {l : Char} {p : Piece} (hl : escapeLetter? l = none)
    (hw : escapeWidth? l = some width) (hpos : 0 < width) (hn : p.code < 16 ^ width) (rest : List Char) :
    readEscape l (hexPadded true width p.code ++ rest) = .ok (p, rest) := by
  have hlen := length_hexPadded true hpos hn
  unfold readEscape
  simp only [hl, hw]
  rw [if_neg (by simp [hlen])]
  rw [List.take_left' hlen, List.drop_left' hlen, hexNumber?_hexPadded]
  simp [ofCodePoint_code]

theorem readEscape_numberedEscape (p : Piece) (rest : List Char) :
    ∃ e r, numberedEscape p.code ++ rest = '\\' :: e :: r ∧ isBreak e = false ∧ readEscape e r = .ok (p, rest) := by
  have hp := code_lt p
  unfold numberedEscape
  split_ifs with hx hu
  · exact ⟨'x', _, rfl, rfl, readEscape_hex 2 rfl rfl (by decide) (by omega) rest⟩
  · exact ⟨'u', _, rfl, rfl, readEscape_hex 4 rfl rfl (by decide) (by omega) rest⟩
  · exact ⟨'U', _, rfl, rfl, readEscape_hex 8 rfl rfl (by decide) (by omega) rest⟩

theorem readEscape_escapeOf (p : Piece) (rest : List Char) :
    ∃ e r, escapeOf p ++ rest = '\\' :: e :: r ∧ isBreak e = false ∧ readEscape e r = .ok (p, rest) := by
  cases p with
  | half n => exact readEscape_numberedEscape (.half n) rest
  | character c =>
    rw [escapeOf]
    cases hl : letterOf? c with
    | some l =>
      obtain ⟨hletter, hbreak⟩ := escapeLetter?_of_letterOf? hl
      exact ⟨l, rest, rfl, hbreak, by simp [readEscape, hletter]⟩
    | none => exact readEscape_numberedEscape (.character c) rest

theorem readQuoted_backslash (e : Char) (cs : List Char) :
    readQuoted true ('\\' :: e :: cs) =
      if isBreak e then
        match readBreaks? cs with
        | none => .error .illFormed
        | some (bs, r) => (readQuoted true r).map fun (v, r) => (pieces bs ++ v, r)
      else
        match readEscape e cs with
        | .error f => .error f
        | .ok (x, r) => (readQuoted true r).map fun (v, r) => (x :: v, r) := by
  have hslash : isSpace '\\' = false := rfl
  conv_lhs => unfold readQuoted
  simp only [hslash, Bool.false_eq_true, dif_neg, not_false_eq_true]
  simp only [Bool.not_true, Bool.false_eq_true, and_false, if_false, and_true, if_true, show ¬ '\\' = '\x22' by decide]
  cases hb : isBreak e with
  | true =>
    simp only [if_true]
    split <;> next h => simp [h]
  | false =>
    simp only [Bool.false_eq_true, if_false]
    split <;> next h => simp [h]

theorem readQuoted_escape {p : Piece} {e : Char} {cs r : List Char} (hb : isBreak e = false)
    (he : readEscape e cs = .ok (p, r)) : readQuoted true ('\\' :: e :: cs) = preceded [p] (readQuoted true r) := by
  rw [readQuoted_backslash, hb, he]
  rfl

/-- an escape is read as its piece -/
theorem readQuoted_escapeOf (p : Piece) (cs : List Char) :
    readQuoted true (escapeOf p ++ cs) = preceded [p] (readQuoted true cs) := by
  obtain ⟨e, r, happ, hb, he⟩ := readEscape_escapeOf p cs
  rw [happ]
  exact readQuoted_escape hb he

/-! ## Folds -/

theorem readQuoted_fold {c : Char} {cs : List Char} (hc : isSpace c = false) :
    readQuoted true ('\\' :: foldedLine ++ c :: cs) = readQuoted true (c :: cs) := by
  show readQuoted true ('\\' :: '\n' :: ' ' :: ' ' :: c :: cs) = _
  have hbreak : isBreak '\n' = true := rfl
  rw [readQuoted_backslash, hbreak, readBreaks?_blanks hc]
  exact preceded_nil _

/-! ## Strings -/

theorem IsUnescaped.isSpace {c : Char} (h : IsUnescaped c) (hc : c ≠ ' ') : isSpace c = false :=
  isSpace_of_isAsciiPrintable h.printable hc

theorem IsUnescaped.isPlainIn {c : Char} (h : IsUnescaped c) (hc : c ≠ ' ') : isPlainIn true c = true := by
  simp [Yaml.isPlainIn, h.isSpace hc, h.ne_quote, h.ne_backslash]

theorem IsUnescaped.isBreak {c : Char} (h : IsUnescaped c) : isBreak c = false := by
  by_cases hc : c = ' '
  · rw [hc]
    rfl
  · have hspace := h.isSpace hc
    rw [Yaml.isSpace, Bool.or_eq_false_iff] at hspace
    exact hspace.2

/-- characters that need no escape are read as they are, blanks among them if the line goes on -/
theorem readQuoted_append {l cs : List Char} (hl : ∀ c ∈ l, IsUnescaped c) (hgo : Goes cs) :
    readQuoted true (l ++ cs) = preceded (pieces l) (readQuoted true cs) := by
  induction l with
  | nil => exact (preceded_nil _).symm
  | cons c l ih =>
    obtain ⟨hc, hrest⟩ := List.forall_mem_cons.1 hl
    have hstep : readQuoted true (c :: (l ++ cs)) = preceded [.character c] (readQuoted true (l ++ cs)) := by
      by_cases hblank : c = ' '
      · exact readQuoted_blank (by rw [hblank]; rfl) (goes_append (fun d hd => (hrest d hd).isBreak) hgo)
      · exact readQuoted_plain (hc.isPlainIn hblank) _
    rw [List.cons_append, hstep, ih hrest, preceded_preceded]
    rfl

/-- what a piece makes the writer do: write an escape, with or without a fold after it, fold before a character, or hold
the character back -/
theorem writeDouble_cons (column : Nat) (held : List Char) (first : Bool) (p : Piece) (ps : List Piece) :
    (isBlankPiece p = false ∧ ∃ after, writeDouble column held first (p :: ps) =
      held.reverse ++ (escapeOf p ++ writeDouble after [] false ps)) ∨
    (isBlankPiece p = false ∧ ps ≠ [] ∧ writeDouble column held first (p :: ps) =
      held.reverse ++ (escapeOf p ++ (doubleFold ps.head? ++ writeDouble (doubleFoldColumn ps.head?) [] false ps))) ∨
    (∃ c, p = .character c ∧ IsUnescaped c ∧ widthLimit < column + held.length ∧
      writeDouble column held first (p :: ps) =
        held.reverse ++ (doubleFold (some p) ++ writeDouble (doubleFoldColumn (some p)) [c] false ps)) ∨
    (∃ c, p = .character c ∧ IsUnescaped c ∧
      writeDouble column held first (p :: ps) = writeDouble column (c :: held) false ps) := by
  rw [writeDouble]
  cases hp : unescaped? p with
  | none =>
    dsimp only
    split_ifs with hfold
    · exact .inr (.inl ⟨isBlankPiece_of_unescaped? hp, hfold.2.1, by simp only [List.append_assoc]⟩)
    · exact .inl ⟨isBlankPiece_of_unescaped? hp, _, by rw [List.append_assoc]⟩
  | some c =>
    obtain ⟨rfl, hc⟩ := unescaped?_eq_some hp
    dsimp only
    split_ifs with hfold
    · exact .inr (.inr (.inl ⟨c, rfl, hc, hfold.2.2.2, by rw [List.append_assoc]⟩))
    · exact .inr (.inr (.inr ⟨c, rfl, hc, rfl⟩))

theorem goes_escapeOf (p : Piece) (cs : List Char) : Goes (escapeOf p ++ cs) := by
  obtain ⟨e, r, happ, -⟩ := readEscape_escapeOf p cs
  rw [happ]
  exact goes_cons rfl _

theorem goes_doubleFold (next : Option Piece) (cs : List Char) : Goes (doubleFold next ++ cs) := goes_cons rfl _

/-- what is held back is written first, and the line goes on after it -/
theorem exists_writeDouble (column : Nat) (held : List Char) (first : Bool) (ps : List Piece) (rest : List Char) :
    ∃ r, writeDouble column held first ps ++ '\x22' :: rest = held.reverse ++ r ∧ Goes r := by
  induction ps generalizing held column first with
  | nil => exact ⟨'\x22' :: rest, by rw [writeDouble], goes_cons rfl _⟩
  | cons p ps ih =>
    rcases writeDouble_cons column held first p ps with
      ⟨_, _, hw⟩ | ⟨_, _, hw⟩ | ⟨_, _, _, _, hw⟩ | ⟨c, _, hc, hw⟩
    · rw [hw, List.append_assoc, List.append_assoc]
      exact ⟨_, rfl, goes_escapeOf p _⟩
    · rw [hw, List.append_assoc, List.append_assoc]
      exact ⟨_, rfl, goes_escapeOf p _⟩
    · rw [hw, List.append_assoc, List.append_assoc]
      exact ⟨_, rfl, goes_doubleFold (some p) _⟩
    · obtain ⟨r, hr, hgo⟩ := ih column (c :: held) false
      have hnext : Goes ([c] ++ r) := goes_append (by simpa using hc.isBreak) hgo
      exact ⟨c :: r, by rw [hw, hr, List.reverse_cons, List.append_assoc]; rfl, hnext⟩

theorem isBlankPiece_character (c : Char) : isBlankPiece (.character c) = decide (c = ' ') := by
  simp [isBlankPiece]

/-- a fold before a character that needs no escape is read as nothing; a blank there has a mark -/
theorem readQuoted_doubleFold {c : Char} {cs : List Char} (hc : IsUnescaped c) (hgo : Goes cs) :
    readQuoted true (doubleFold (some (.character c)) ++ c :: cs) = readQuoted true (c :: cs) := by
  by_cases hblank : c = ' '
  · have hmark : doubleFold (some (.character c)) ++ c :: cs = '\\' :: foldedLine ++ '\\' :: ' ' :: cs := by
      rw [hblank]
      rfl
    rw [hmark, hblank, readQuoted_fold rfl, readQuoted_escape (p := .character ' ') rfl rfl, readQuoted_blank rfl hgo]
  · have hmark : doubleFold (some (.character c)) ++ c :: cs = '\\' :: foldedLine ++ c :: cs := by
      simp [doubleFold, isBlankPiece_character, hblank]
    rw [hmark, readQuoted_fold (hc.isSpace hblank)]

/-- so is a fold before an escape, whether it has the mark of a blank or not -/
theorem readQuoted_doubleFold_escapeOf {p : Piece} (hp : isBlankPiece p = false) (cs : List Char) :
    readQuoted true (doubleFold (some p) ++ (escapeOf p ++ cs)) = readQuoted true (escapeOf p ++ cs) := by
  have hmark : doubleFold (some p) = '\\' :: foldedLine := by simp [doubleFold, hp]
  obtain ⟨e, r, happ, -⟩ := readEscape_escapeOf p cs
  rw [happ, hmark]
  exact readQuoted_fold rfl

/-- a fold before the rest of the pieces is read as nothing -/
theorem readQuoted_doubleFold_writeDouble {ps : List Piece} (hne : ps ≠ []) (rest : List Char) :
    readQuoted true (doubleFold ps.head? ++ (writeDouble (doubleFoldColumn ps.head?) [] false ps ++ '\x22' :: rest)) =
      readQuoted true (writeDouble (doubleFoldColumn ps.head?) [] false ps ++ '\x22' :: rest) := by
  obtain ⟨q, qs, rfl⟩ := List.exists_cons_of_ne_nil hne
  have hcolumn : doubleFoldColumn (some q) ≤ widthLimit := by
    unfold doubleFoldColumn foldIndent widthLimit
    split_ifs <;> decide
  rw [List.head?_cons]
  rcases writeDouble_cons (doubleFoldColumn (some q)) [] false q qs with
    ⟨hq, _, hw⟩ | ⟨hq, _, hw⟩ | ⟨_, _, _, hwide, _⟩ | ⟨c, rfl, hc, hw⟩
  · rw [hw, List.reverse_nil, List.nil_append, List.append_assoc]
    exact readQuoted_doubleFold_escapeOf hq _
  · rw [hw, List.reverse_nil, List.nil_append, List.append_assoc]
    exact readQuoted_doubleFold_escapeOf hq _
  · exact absurd hwide (by rw [List.length_nil]; omega)
  · obtain ⟨r, hr, hgo⟩ := exists_writeDouble (doubleFoldColumn (some (.character c))) [c] false qs rest
    rw [hw, hr]
    exact readQuoted_doubleFold hc hgo

/-- what is held back is read with the pieces after it -/
theorem readQuoted_writeDouble_held {held : List Char} (hheld : ∀ c ∈ held, IsUnescaped c)
    (column : Nat) (first : Bool) (ps : List Piece) (rest : List Char) :
    readQuoted true (writeDouble column held first ps ++ '\x22' :: rest) = .ok (pieces held.reverse ++ ps, rest) := by
  have hreverse : ∀ {l : List Char}, (∀ c ∈ l, IsUnescaped c) → ∀ c ∈ l.reverse, IsUnescaped c :=
    fun hl c hc => hl c (List.mem_reverse.1 hc)
  induction ps generalizing held column first with
  | nil =>
    have hend : readQuoted true ('\x22' :: rest) = .ok ([], rest) := by
      unfold readQuoted
      simp [Yaml.isSpace, isBlank, Yaml.isBreak]
    rw [writeDouble, readQuoted_append (hreverse hheld) (goes_cons rfl _), hend, preceded_ok]
  | cons p ps ih =>
    have hnone : ∀ d ∈ ([] : List Char), IsUnescaped d := List.forall_mem_nil _
    rcases writeDouble_cons column held first p ps with
      ⟨_, _, hw⟩ | ⟨_, hne, hw⟩ | ⟨c, rfl, hc, _, hw⟩ | ⟨c, rfl, hc, hw⟩
    · rw [hw, List.append_assoc, List.append_assoc, readQuoted_append (hreverse hheld) (goes_escapeOf _ _),
        readQuoted_escapeOf, ih hnone, preceded_ok, preceded_ok]
      rfl
    · rw [hw, List.append_assoc, List.append_assoc, List.append_assoc,
        readQuoted_append (hreverse hheld) (goes_escapeOf _ _), readQuoted_escapeOf,
        readQuoted_doubleFold_writeDouble hne, ih hnone, preceded_ok, preceded_ok]
      rfl
    · obtain ⟨r, hr, hgo⟩ := exists_writeDouble (doubleFoldColumn (some (.character c))) [c] false ps rest
      have hrest := ih (List.forall_mem_singleton.2 hc) (doubleFoldColumn (some (.character c))) false
      rw [hr, List.reverse_singleton, List.singleton_append] at hrest
      rw [hw, List.append_assoc, List.append_assoc, hr, readQuoted_append (hreverse hheld) (goes_doubleFold _ _),
        List.reverse_singleton, List.singleton_append, readQuoted_doubleFold hc hgo, hrest, preceded_ok]
      rfl
    · rw [hw, ih (List.forall_mem_cons.2 ⟨hc, hheld⟩), List.reverse_cons, pieces, List.map_append, List.append_assoc]
      rfl

/-- **Double quotes keep the string.** What is written within double quotes is read back, up to the closing quote. -/
theorem readQuoted_writeDouble (column : Nat) (first : Bool) (ps : List Piece) (rest : List Char) :
    readQuoted true (writeDouble column [] first ps ++ '\x22' :: rest) = .ok (ps, rest) :=
  readQuoted_writeDouble_held (List.forall_mem_nil _) column first ps rest

end SchemaTypings.Yaml
