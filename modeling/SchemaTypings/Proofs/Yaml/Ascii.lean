/-
What the writer writes is printable ASCII and LF, whatever the string is (`isBasic_of_mem_writeEntry`). Plain scalars and
single quotes are used for such texts only, and double quotes write an escape for any other character.
-/
import SchemaTypings.Proofs.Text.Hexadecimal
import SchemaTypings.Yaml.Writer

namespace SchemaTypings.Yaml

open SchemaTypings.Text

/-- LF and printable ASCII -/
def isBasic (c : Char) : Bool := c = '\n' || isAsciiPrintable c

theorem isBasic_of_isAsciiPrintable {c : Char} (h : isAsciiPrintable c = true) : isBasic c = true := by
  rw [isBasic, h, Bool.or_true]

theorem isAsciiPrintable_of_isBasic {c : Char} (h : isBasic c = true) (hc : c ≠ '\n') : isAsciiPrintable c = true := by
  rw [isBasic, Bool.or_eq_true, decide_eq_true_eq] at h
  exact h.resolve_left hc

theorem isPrintable_of_isBasic {c : Char} (h : isBasic c = true) : isPrintable c = true := by
  by_cases hc : c = '\n'
  · rw [hc]
    rfl
  · have hascii := isAsciiPrintable_of_isBasic h hc
    rw [isAsciiPrintable] at hascii
    simp [isPrintable, hascii]

/-- the only blank or line end of printable ASCII is a space -/
theorem isSpace_of_isAsciiPrintable {c : Char} (h : isAsciiPrintable c = true) (hc : c ≠ ' ') : isSpace c = false := by
  rw [isAsciiPrintable, Bool.and_eq_true, decide_eq_true_eq, decide_eq_true_eq] at h
  simp only [isSpace, isBlank, isBreak, Bool.or_eq_false_iff, decide_eq_false_iff_not]
  refine ⟨⟨hc, ?_⟩, ⟨⟨?_, ?_⟩, ?_⟩, ?_⟩ <;> (rintro rfl; exact absurd h (by decide))

theorem ne_of_isBasic {c d : Char} (hc : isBasic c = true) (hd : isBasic d = false) : c ≠ d := by
  rintro rfl
  rw [hc] at hd
  cases hd

/-- a text that does not need double quotes -/
theorem isBasic_of_needsDouble {cs : List Char} (h : needsDouble cs = false) : ∀ c ∈ cs, isBasic c = true := by
  intro c hc
  have hnone := List.any_eq_false.1 h c hc
  rwa [Bool.not_eq_true, Bool.not_eq_false'] at hnone

theorem isBasic_of_mem_foldedLine : ∀ c ∈ foldedLine, isBasic c = true := List.all_eq_true.1 (by decide)

/-! ## Escapes -/

/-- one line of a table -/
theorem eq_or_of_ite_eq_some {c d x l : Char} {next : Option Char} (h : (if c = d then some x else next) = some l) :
    (c = d ∧ x = l) ∨ next = some l := by
  by_cases hc : c = d
  · rw [if_pos hc] at h
    exact .inl ⟨hc, Option.some.inj h⟩
  · rw [if_neg hc] at h
    exact .inr h

theorem isBasic_of_letterOf? {c l : Char} (h : letterOf? c = some l) : isBasic l = true := by
  unfold letterOf? at h
  iterate 15
    rcases eq_or_of_ite_eq_some h with ⟨rfl, rfl⟩ | h
    · rfl
  cases h

theorem isBasic_of_mem_hexPadded {upper : Bool} {width n : Nat} : ∀ c ∈ hexPadded upper width n, isBasic c = true := by
  intro c hc
  obtain ⟨d, hd, rfl⟩ := exists_of_mem_hexPadded hc
  have hall : ∀ up : Bool, ∀ e : Fin 16, isBasic (hexDigit up e) = true := by decide
  exact hall upper ⟨d, hd⟩

theorem isBasic_of_mem_numberedEscape (n : Nat) : ∀ d ∈ numberedEscape n, isBasic d = true := by
  have hhex : ∀ l width, isBasic l = true → ∀ d ∈ '\\' :: l :: hexPadded true width n, isBasic d = true := by
    intro l width hl
    exact List.forall_mem_cons.2 ⟨rfl, List.forall_mem_cons.2 ⟨hl, isBasic_of_mem_hexPadded⟩⟩
  unfold numberedEscape
  split_ifs
  · exact hhex 'x' 2 rfl
  · exact hhex 'u' 4 rfl
  · exact hhex 'U' 8 rfl

theorem isBasic_of_mem_escapeOf (p : Piece) : ∀ d ∈ escapeOf p, isBasic d = true := by
  cases p with
  | half n => exact isBasic_of_mem_numberedEscape n
  | character c =>
    rw [escapeOf]
    cases hl : letterOf? c with
    | some l => exact List.forall_mem_cons.2 ⟨rfl, List.forall_mem_singleton.2 (isBasic_of_letterOf? hl)⟩
    | none => exact isBasic_of_mem_numberedEscape c.toNat

/-- characters that are written as they are within double quotes -/
structure IsUnescaped (c : Char) : Prop where
  ne_quote : c ≠ '\x22'
  ne_backslash : c ≠ '\\'
  printable : isAsciiPrintable c = true

theorem unescaped?_eq_some {p : Piece} {c : Char} (h : unescaped? p = some c) : p = .character c ∧ IsUnescaped c := by
  cases p with
  | half n => cases h
  | character d =>
    rw [unescaped?] at h
    split_ifs at h with hd
    obtain rfl := Option.some.inj h
    simp only [Bool.or_eq_true, decide_eq_true_eq, Bool.not_eq_true', not_or, Bool.not_eq_false] at hd
    exact ⟨rfl, hd.1.1, hd.1.2, hd.2⟩

/-- a blank is one of these -/
theorem isBlankPiece_of_unescaped? {p : Piece} (h : unescaped? p = none) : isBlankPiece p = false := by
  rw [isBlankPiece, decide_eq_false_iff_not]
  rintro rfl
  cases h

/-! ## Scalars -/

theorem isBasic_of_mem_writePlain {cs : List Char} (hcs : ∀ c ∈ cs, isBasic c = true) (column : Nat) (inner : Bool) :
    ∀ c ∈ writePlain column inner cs, isBasic c = true := by
  induction cs generalizing column inner with
  | nil => exact List.forall_mem_nil _
  | cons c cs ih =>
    obtain ⟨hc, hrest⟩ := List.forall_mem_cons.1 hcs
    rw [writePlain]
    split_ifs
    · exact List.forall_mem_append.2 ⟨isBasic_of_mem_foldedLine, ih hrest _ _⟩
    · exact List.forall_mem_cons.2 ⟨rfl, ih hrest _ _⟩
    · exact List.forall_mem_cons.2 ⟨hc, ih hrest _ _⟩

theorem isBasic_of_mem_writeSingle {cs : List Char} (hcs : ∀ c ∈ cs, isBasic c = true) (column : Nat) (inner : Bool) :
    ∀ c ∈ writeSingle column inner cs, isBasic c = true := by
  induction cs generalizing column inner with
  | nil => exact List.forall_mem_nil _
  | cons c cs ih =>
    obtain ⟨hc, hrest⟩ := List.forall_mem_cons.1 hcs
    rw [writeSingle]
    split_ifs
    · exact List.forall_mem_cons.2 ⟨rfl, ih hrest _ _⟩
    · exact List.forall_mem_cons.2 ⟨rfl, List.forall_mem_append.2 ⟨isBasic_of_mem_foldedLine, ih hrest _ _⟩⟩
    · exact List.forall_mem_append.2 ⟨isBasic_of_mem_foldedLine, ih hrest _ _⟩
    · exact List.forall_mem_cons.2 ⟨rfl, ih hrest _ _⟩
    · exact List.forall_mem_cons.2 ⟨rfl, List.forall_mem_cons.2 ⟨rfl, ih hrest _ _⟩⟩
    · exact List.forall_mem_cons.2 ⟨hc, ih hrest _ _⟩

theorem isBasic_of_mem_doubleFold (next : Option Piece) : ∀ c ∈ doubleFold next, isBasic c = true := by
  unfold doubleFold
  split_ifs <;> exact List.all_eq_true.1 (by decide)

/-- what is held back needs no escape -/
theorem isBasic_of_mem_writeDouble {held : List Char} (hheld : ∀ c ∈ held, isBasic c = true)
    (column : Nat) (first : Bool) (ps : List Piece) :
    ∀ c ∈ writeDouble column held first ps, isBasic c = true := by
  have hreverse : ∀ {l : List Char}, (∀ c ∈ l, isBasic c = true) → ∀ c ∈ l.reverse, isBasic c = true :=
    fun hl c hc => hl c (List.mem_reverse.1 hc)
  induction ps generalizing held column first with
  | nil => exact hreverse hheld
  | cons p ps ih =>
    rw [writeDouble]
    cases hp : unescaped? p with
    | none =>
      have hrest := ih (List.forall_mem_nil _)
      have hout : ∀ d ∈ held.reverse ++ escapeOf p, isBasic d = true :=
        List.forall_mem_append.2 ⟨hreverse hheld, isBasic_of_mem_escapeOf p⟩
      dsimp only
      split_ifs
      · exact List.forall_mem_append.2 ⟨List.forall_mem_append.2 ⟨hout, isBasic_of_mem_doubleFold _⟩, hrest _ _⟩
      · exact List.forall_mem_append.2 ⟨hout, hrest _ _⟩
    | some c =>
      have hc : isBasic c = true := isBasic_of_isAsciiPrintable (unescaped?_eq_some hp).2.printable
      dsimp only
      split_ifs
      · refine List.forall_mem_append.2 ⟨List.forall_mem_append.2 ⟨hreverse hheld, isBasic_of_mem_doubleFold _⟩, ?_⟩
        exact ih (List.forall_mem_singleton.2 hc) _ _
      · exact ih (List.forall_mem_cons.2 ⟨hc, hheld⟩) _ _

theorem isBasic_of_mem_writeQuoted (column : Nat) (ps : List Piece) : ∀ c ∈ writeQuoted column ps, isBasic c = true := by
  refine List.forall_mem_cons.2 ⟨rfl, List.forall_mem_append.2 ⟨?_, List.forall_mem_singleton.2 rfl⟩⟩
  exact isBasic_of_mem_writeDouble (List.forall_mem_nil _) _ _ _

theorem isBasic_of_mem_writeText (column : Nat) (cs : List Char) : ∀ c ∈ writeText column cs, isBasic c = true := by
  unfold writeText
  split_ifs with hne hdouble hplain
  · exact List.all_eq_true.1 (by decide)
  · exact isBasic_of_mem_writeQuoted column _
  all_goals
    rw [Bool.not_eq_true, Bool.or_eq_false_iff] at hdouble
    have hcs := isBasic_of_needsDouble hdouble.1
  · exact isBasic_of_mem_writePlain hcs _ _
  · exact List.forall_mem_cons.2 ⟨rfl,
      List.forall_mem_append.2 ⟨isBasic_of_mem_writeSingle hcs _ _, List.forall_mem_singleton.2 rfl⟩⟩

theorem isBasic_of_mem_writeScalar (column : Nat) (value : Str) : ∀ c ∈ writeScalar column value, isBasic c = true := by
  cases value with
  | text s => exact isBasic_of_mem_writeText column s.toList
  | unpaired u => exact isBasic_of_mem_writeQuoted column u.pieces

/-- **A line of a mapping is plain ASCII**, if its key is; the value may be any string. -/
theorem isBasic_of_mem_writeEntry {key : String} (hkey : ∀ c ∈ key.toList, isBasic c = true) (value : Str) :
    ∀ c ∈ writeEntry key value, isBasic c = true := by
  unfold writeEntry
  have hvalue := isBasic_of_mem_writeScalar (key.length + 2) value
  refine List.forall_mem_append.2 ⟨List.forall_mem_append.2 ⟨hkey, ?_⟩, List.forall_mem_singleton.2 rfl⟩
  exact List.forall_mem_cons.2 ⟨rfl, List.forall_mem_cons.2 ⟨rfl, hvalue⟩⟩

end SchemaTypings.Yaml
