/-
Strings of a document are read back from the text that writes them, and this text is plain ASCII.

A character is written as itself, as an escape, or as the escapes of a pair of surrogates. The reader makes pieces of
escapes first (`readPieces_quoted`) and joins pairs afterwards (`joinPairs_written`); no character is half of a pair, so
that nothing else is joined. So is a whole object of strings written in ASCII (`isWritten_of_mem_write`).
-/
import Mathlib.Tactic
import SchemaTypings.Json.Reader
import SchemaTypings.Proofs.Text.Hexadecimal

namespace SchemaTypings.Json

open SchemaTypings.Text

/-! ## Pieces -/

theorem toNat_lt (c : Char) : c.toNat < 0x110000 := by
  have hvalid : c.toNat.isValidChar := c.valid
  unfold Nat.isValidChar at hvalid
  omega

/-- the pieces that a character is written as: one, or the halves of a pair -/
def written (c : Char) : List Piece :=
  if c.toNat < 0x10000 then [.character c]
  else [.ofCode (splitSurrogates c.toNat).1, .ofCode (splitSurrogates c.toNat).2]

/-- the halves of a pair stand for the character that is split -/
theorem split_facts {n : Nat} (hlow : 0x10000 ≤ n) (hhigh : n < 0x110000) :
    isHighSurrogate (splitSurrogates n).1 = true ∧ isLowSurrogate (splitSurrogates n).2 = true ∧
      joinSurrogates (splitSurrogates n).1 (splitSurrogates n).2 = n := by
  unfold isHighSurrogate isLowSurrogate splitSurrogates joinSurrogates
  simp only [Bool.and_eq_true, decide_eq_true_eq]
  omega

/-- halves of a pair next to each other become their character -/
theorem joinPairs_ofCode {n m : Nat} (hhigh : isHighSurrogate n = true) (hlow : isLowSurrogate m = true) (ps : List Piece) :
    joinPairs (.ofCode n :: .ofCode m :: ps) = .ofCode (joinSurrogates n m) :: joinPairs ps := by
  have hn := hhigh
  have hm := hlow
  simp only [isHighSurrogate, isLowSurrogate, Bool.and_eq_true, decide_eq_true_eq] at hn hm
  have hfirst : 0xD800 ≤ n ∧ n ≤ 0xDFFF := ⟨hn.1, by omega⟩
  have hsecond : 0xD800 ≤ m ∧ m ≤ 0xDFFF := ⟨by omega, hm.2⟩
  rw [Piece.ofCode, Piece.ofCode, dif_pos hfirst, dif_pos hsecond, joinPairs, hhigh, hlow]
  rfl

theorem joinPairs_written (c : Char) (ps : List Piece) :
    joinPairs (written c ++ ps) = .character c :: joinPairs ps := by
  unfold written
  by_cases hc : c.toNat < 0x10000
  · rw [if_pos hc]
    exact joinPairs.eq_3 _ _ (by simp)
  · obtain ⟨hhigh, hlow, hjoin⟩ := split_facts (Nat.le_of_not_lt hc) (toNat_lt c)
    rw [if_neg hc, List.cons_append, List.cons_append, List.nil_append, joinPairs_ofCode hhigh hlow, hjoin,
      Piece.ofCode_toNat]

theorem joinPairs_flatMap (cs : List Char) : joinPairs (cs.flatMap written) = pieces cs := by
  induction cs with
  | nil => rfl
  | cons c cs ih =>
    rw [List.flatMap_cons, joinPairs_written, ih]
    rfl

/-- the text of the pieces that it is written as -/
theorem textOf?_written (s : String) : textOf? (s.toList.flatMap written) = some s := by
  rw [textOf?, joinPairs_flatMap, characters_pieces]
  simp

/-! ## Strings -/

/-- the pieces of a string after those that are read already -/
def after (ps : List Piece) (r : Option (List Piece × List Char)) : Option (List Piece × List Char) :=
  r.map fun (qs, rest) => (ps ++ qs, rest)

theorem readPieces_unitEscape {n : Nat} (hn : n < 0x10000) (rest : List Char) :
    readPieces (unitEscape n ++ rest) = after [Piece.ofCode n] (readPieces rest) := by
  have hlength : (hexPadded false 4 n).length = 4 := length_hexPadded false (by decide) hn
  have hnumber : hexNumber? (hexPadded false 4 n) = some n := hexNumber?_hexPadded false 4 n
  obtain ⟨a, b, c, d, hdigits⟩ : ∃ a b c d, hexPadded false 4 n = [a, b, c, d] := List.length_eq_four.1 hlength
  rw [hdigits] at hnumber
  rw [unitEscape, hdigits]
  simp only [List.cons_append, List.nil_append, readPieces, hnumber, after]
  cases readPieces rest <;> rfl

/-- an escape of one letter, which is no number -/
theorem readPieces_letter {l c : Char} (hl : escaped? l = some c) (rest : List Char) :
    readPieces ('\\' :: l :: rest) = after [.character c] (readPieces rest) := by
  have hu : l ≠ 'u' := by
    rintro rfl
    cases hl
  rw [readPieces.eq_4 _ _ fun _ _ _ _ _ h _ => hu h, hl]
  simp only [after, bind, Option.bind]
  cases readPieces rest <;> rfl

theorem readPieces_plain {c : Char} (hquote : c ≠ '"') (hslash : c ≠ '\\') (hnul : c ≠ '\x00') (rest : List Char) :
    readPieces (c :: rest) = after [.character c] (readPieces rest) := by
  rw [readPieces.eq_6 _ _ hquote (fun _ _ _ _ _ h _ => hslash h) (fun _ _ h _ => hslash h) fun h _ => hslash h,
    if_neg hnul]
  simp only [after, bind, Option.bind]
  cases readPieces rest <;> rfl

/-- how a character is written: by a letter, by its number, as itself, or by the numbers of a pair of surrogates -/
inductive Escaped (c : Char) : List Char → Prop where
  | letter {l : Char} : escaped? l = some c → Escaped c ['\\', l]
  | number : c.toNat < 0x10000 → Escaped c (unitEscape c.toNat)
  | plain : c ≠ '"' → c ≠ '\\' → 0x20 ≤ c.toNat → c.toNat < 0x80 → Escaped c [c]
  | pair : 0x10000 ≤ c.toNat →
      Escaped c (unitEscape (splitSurrogates c.toNat).1 ++ unitEscape (splitSurrogates c.toNat).2)

theorem escaped_escape (c : Char) : Escaped c (escape c) := by
  unfold escape
  by_cases hquote : c = '"'
  · rw [if_pos hquote, hquote]
    exact .letter rfl
  rw [if_neg hquote]
  by_cases hslash : c = '\\'
  · rw [if_pos hslash, hslash]
    exact .letter rfl
  rw [if_neg hslash]
  by_cases hsolidus : c = '/'
  · rw [if_pos hsolidus, hsolidus]
    exact .letter rfl
  rw [if_neg hsolidus]
  by_cases hbackspace : c = '\x08'
  · rw [if_pos hbackspace, hbackspace]
    exact .letter rfl
  rw [if_neg hbackspace]
  by_cases hfeed : c = '\x0c'
  · rw [if_pos hfeed, hfeed]
    exact .letter rfl
  rw [if_neg hfeed]
  by_cases hline : c = '\n'
  · rw [if_pos hline, hline]
    exact .letter rfl
  rw [if_neg hline]
  by_cases hreturn : c = '\r'
  · rw [if_pos hreturn, hreturn]
    exact .letter rfl
  rw [if_neg hreturn]
  by_cases htab : c = '\t'
  · rw [if_pos htab, htab]
    exact .letter rfl
  rw [if_neg htab]
  by_cases hcontrol : c.toNat < 0x20
  · rw [if_pos hcontrol]
    exact .number (by omega)
  rw [if_neg hcontrol]
  by_cases hascii : c.toNat < 0x80
  · rw [if_pos hascii]
    exact .plain hquote hslash (Nat.le_of_not_lt hcontrol) hascii
  rw [if_neg hascii]
  by_cases hbasic : c.toNat < 0x10000
  · rw [if_pos hbasic]
    exact .number hbasic
  · rw [if_neg hbasic]
    exact .pair (Nat.le_of_not_lt hbasic)

/-- letters of escapes and their characters are ASCII -/
theorem escaped?_facts {l c : Char} (h : escaped? l = some c) : c.toNat < 0x80 ∧ 0x20 ≤ l.toNat ∧ l.toNat < 0x80 := by
  unfold escaped? at h
  split at h
  all_goals
    cases h
    try decide

/-- a character is read from what it is written as -/
theorem Escaped.readPieces {c : Char} {cs : List Char} (h : Escaped c cs) (rest : List Char) :
    Json.readPieces (cs ++ rest) = after (written c) (Json.readPieces rest) := by
  have hbasic : c.toNat < 0x10000 → written c = [.character c] := fun hc => if_pos hc
  cases h with
  | letter hl =>
    obtain ⟨hc, _⟩ := escaped?_facts hl
    rw [hbasic (by omega)]
    exact readPieces_letter hl rest
  | number hc => rw [hbasic hc, readPieces_unitEscape hc, Piece.ofCode_toNat]
  | plain hquote hslash hcontrol hascii =>
    have hnul : c ≠ '\x00' := by
      rintro rfl
      exact absurd hcontrol (by decide)
    rw [hbasic (by omega)]
    exact readPieces_plain hquote hslash hnul rest
  | pair hc =>
    obtain ⟨hhigh, hlow, _⟩ := split_facts hc (toNat_lt c)
    simp only [isHighSurrogate, isLowSurrogate, Bool.and_eq_true, decide_eq_true_eq] at hhigh hlow
    rw [written, if_neg (Nat.not_lt.2 hc), List.append_assoc, readPieces_unitEscape (by omega),
      readPieces_unitEscape (by omega)]
    cases Json.readPieces rest <;> rfl

/-- a string is read up to its closing quote -/
theorem readPieces_quoted (cs rest : List Char) :
    readPieces (cs.flatMap escape ++ '"' :: rest) = some (cs.flatMap written, rest) := by
  induction cs with
  | nil => rfl
  | cons c cs ih =>
    rw [List.flatMap_cons, List.append_assoc, (escaped_escape c).readPieces, ih]
    rfl

/-! ## Blanks -/

theorem skipBlanks_append {bs : List Char} (hbs : ∀ b ∈ bs, isBlank b = true) (rest : List Char) :
    skipBlanks (bs ++ rest) = skipBlanks rest := by
  rw [skipBlanks, List.dropWhile_append_of_pos hbs, skipBlanks]

@[simp]
theorem skipBlanks_cons {c : Char} (hc : isBlank c = false) (rest : List Char) : skipBlanks (c :: rest) = c :: rest :=
  List.dropWhile_cons_of_neg (by rw [hc]; exact Bool.false_ne_true)

/-- blanks before what is none are passed over -/
theorem skipBlanks_append_cons {bs : List Char} (hbs : ∀ b ∈ bs, isBlank b = true) {c : Char} (hc : isBlank c = false)
    (rest : List Char) : skipBlanks (bs ++ c :: rest) = c :: rest := by
  rw [skipBlanks_append hbs, skipBlanks_cons hc]

theorem isBlank_of_mem_newLine (step : Option Nat) (level : Nat) : ∀ b ∈ newLine step level, isBlank b = true := by
  intro b hb
  cases step with
  | none => cases hb
  | some n =>
    rcases List.mem_cons.1 hb with rfl | hb
    · rfl
    · rw [List.eq_of_mem_replicate hb]
      rfl

/-- a string with blanks before it is read as a value -/
theorem readValue_quote (levels : Nat) {bs : List Char} (hbs : ∀ b ∈ bs, isBlank b = true) (s : String)
    (rest : List Char) : readValue levels (bs ++ (quote s.toList ++ rest)) = some (.string s, rest) := by
  have hskip : skipBlanks (bs ++ (quote s.toList ++ rest)) = '"' :: (s.toList.flatMap escape ++ '"' :: rest) := by
    have hquote : quote s.toList ++ rest = '"' :: (s.toList.flatMap escape ++ '"' :: rest) := by simp [quote]
    rw [hquote, skipBlanks_append_cons hbs rfl]
  unfold readValue
  rw [hskip]
  show (readPieces (s.toList.flatMap escape ++ '"' :: rest)).map _ = _
  rw [readPieces_quoted]
  simp [ofPieces, joinPairs_flatMap, String.ofList_toList, ofStr]

/-! ## Characters -/

/-- strings with their keys as entries of a document -/
def stringEntries (es : List (String × Str)) : List (String × Json) := es.map fun e => (e.1, ofStr e.2)

/-- LF, and ASCII characters that are no controls but for the last of ASCII -/
def isWritten (c : Char) : Bool := c = '\n' || (0x20 ≤ c.toNat && c.toNat < 0x80)

theorem isWritten_of_mem_unitEscape {n : Nat} : ∀ c ∈ unitEscape n, isWritten c = true := by
  have hdigit : ∀ d : Fin 16, isWritten (hexDigit false d) = true := by decide
  refine List.forall_mem_cons.2 ⟨rfl, List.forall_mem_cons.2 ⟨rfl, ?_⟩⟩
  intro c hc
  obtain ⟨d, hd, rfl⟩ := exists_of_mem_hexPadded hc
  exact hdigit ⟨d, hd⟩

theorem Escaped.isWritten {c : Char} {cs : List Char} (h : Escaped c cs) : ∀ d ∈ cs, Json.isWritten d = true := by
  have hbounds : ∀ d : Char, 0x20 ≤ d.toNat → d.toNat < 0x80 → Json.isWritten d = true := by
    intro d hlow hhigh
    rw [Json.isWritten, decide_eq_true hlow, decide_eq_true hhigh]
    simp
  cases h with
  | letter hl =>
    obtain ⟨_, hlow, hhigh⟩ := escaped?_facts hl
    exact List.forall_mem_cons.2 ⟨rfl, List.forall_mem_singleton.2 (hbounds _ hlow hhigh)⟩
  | number _ => exact isWritten_of_mem_unitEscape
  | plain _ _ hlow hhigh => exact List.forall_mem_singleton.2 (hbounds _ hlow hhigh)
  | pair _ => exact List.forall_mem_append.2 ⟨isWritten_of_mem_unitEscape, isWritten_of_mem_unitEscape⟩

theorem isWritten_of_mem_quote (cs : List Char) : ∀ c ∈ quote cs, isWritten c = true := by
  refine List.forall_mem_cons.2 ⟨rfl, List.forall_mem_append.2 ⟨?_, List.forall_mem_singleton.2 rfl⟩⟩
  intro c hc
  obtain ⟨d, _, hd⟩ := List.mem_flatMap.1 hc
  exact (escaped_escape d).isWritten c hd

theorem isWritten_of_mem_quotePieces (ps : List Piece) : ∀ c ∈ quotePieces ps, isWritten c = true := by
  refine List.forall_mem_cons.2 ⟨rfl, List.forall_mem_append.2 ⟨?_, List.forall_mem_singleton.2 rfl⟩⟩
  intro c hc
  obtain ⟨p, _, hp⟩ := List.mem_flatMap.1 hc
  cases p with
  | character d => exact (escaped_escape d).isWritten c hp
  | half n => exact isWritten_of_mem_unitEscape c hp

theorem isWritten_of_mem_ofStr (step : Option Nat) (level : Nat) (s : Str) :
    ∀ c ∈ writeAt step level (ofStr s), isWritten c = true := by
  cases s with
  | text s =>
    rw [ofStr, writeAt]
    exact isWritten_of_mem_quote s.toList
  | unpaired u =>
    rw [ofStr, writeAt]
    exact isWritten_of_mem_quotePieces u.pieces

theorem isWritten_of_mem_newLine (step : Option Nat) (level : Nat) : ∀ c ∈ newLine step level, isWritten c = true := by
  intro c hc
  cases step with
  | none => cases hc
  | some n =>
    rcases List.mem_cons.1 hc with rfl | hc
    · rfl
    · rw [List.eq_of_mem_replicate hc]
      rfl

theorem isWritten_of_mem_keyEnd (step : Option Nat) : ∀ c ∈ keyEnd step, isWritten c = true := by
  cases step with
  | none => exact List.forall_mem_singleton.2 rfl
  | some n => exact List.forall_mem_cons.2 ⟨rfl, List.forall_mem_singleton.2 rfl⟩

theorem isWritten_of_mem_writeEntries (step : Option Nat) (level : Nat) (es : List (String × Str)) :
    ∀ c ∈ writeEntries step level (stringEntries es), isWritten c = true := by
  induction es with
  | nil => exact List.forall_mem_nil _
  | cons e es ih =>
    have hkey := List.forall_mem_append.2 ⟨isWritten_of_mem_newLine step level, isWritten_of_mem_quote e.1.toList⟩
    have hvalue := List.forall_mem_append.2 ⟨isWritten_of_mem_keyEnd step, isWritten_of_mem_ofStr step level e.2⟩
    have hall := List.forall_mem_append.2 ⟨List.forall_mem_append.2 ⟨hkey, hvalue⟩, ih⟩
    refine List.forall_mem_cons.2 ⟨rfl, ?_⟩
    simpa [stringEntries, writeEntries, List.append_assoc] using hall

/-- **An object of strings is plain ASCII**, whatever its keys and its strings are. -/
theorem isWritten_of_mem_write (step : Option Nat) (es : List (String × Str)) :
    ∀ c ∈ write step (.object (stringEntries es)), isWritten c = true := by
  cases es with
  | nil => exact List.forall_mem_cons.2 ⟨rfl, List.forall_mem_singleton.2 rfl⟩
  | cons e es =>
    -- the first entry is written as the others are, but for the comma
    have hwrite : write step (.object (stringEntries (e :: es))) =
        '{' :: (writeEntries step 1 (stringEntries (e :: es))).tail ++ (newLine step 0 ++ ['}']) := by
      simp [stringEntries, write, writeAt, writeEntries]
    have hentries : ∀ c ∈ (writeEntries step 1 (stringEntries (e :: es))).tail, isWritten c = true :=
      fun c hc => isWritten_of_mem_writeEntries step 1 (e :: es) c (List.mem_of_mem_tail hc)
    rw [hwrite]
    refine List.forall_mem_append.2 ⟨List.forall_mem_cons.2 ⟨rfl, hentries⟩, ?_⟩
    exact List.forall_mem_append.2 ⟨isWritten_of_mem_newLine step 0, List.forall_mem_singleton.2 rfl⟩

end SchemaTypings.Json
