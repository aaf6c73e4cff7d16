/-
Tokens of a written mapping.

`run_eq_run` is one step of the scanner: it goes on to the next token, takes it, and is somewhere further on. An entry
of a mapping takes three steps, for the key, the colon and the value (`run_entry`). Between two entries no key is
pending, and a new line has started; this is all that the next entry needs to know (`atLine`).
-/
import SchemaTypings.Proofs.Yaml.DoubleQuoted
import SchemaTypings.Proofs.Yaml.Plain
import SchemaTypings.Proofs.Yaml.SingleQuoted
import SchemaTypings.Yaml.Token

namespace SchemaTypings.Yaml

open SchemaTypings.Text

namespace Scan

/-! ## Steps -/

theorem run_eq_run {s u : Scan} (t : Scan) (c : Char) (cs : List Char) (ht : s.toToken.dropStale = some t)
    (hrest : t.rest = c :: cs) (hu : (t.closeTo t.column).token c cs = .ok u) (hlt : u.rest.length < s.rest.length) :
    s.run = u.run := by
  conv_lhs => unfold run
  rw [ht]
  dsimp only
  rw [hrest]
  dsimp only
  rw [hu]
  exact if_pos hlt

/-- the scanner goes on by the characters before `r` -/
theorem goTo_append (l r : List Char) (line column : Nat) (indents : List Nat) (place : Option KeyPlace)
    (outer : List (Option KeyPlace)) (keyAllowed : Bool) (tokens : List Token) :
    goTo ⟨l ++ r, line, column, indents, place, outer, keyAllowed, tokens⟩ r =
      ⟨r, (placeAfter line column l).1, (placeAfter line column l).2, indents, place, outer, keyAllowed, tokens⟩ := by
  have hlen : (l ++ r).length - r.length = l.length := by rw [List.length_append]; omega
  unfold goTo
  dsimp only
  rw [hlen, List.take_left']
  rfl

theorem goTo_cons (c : Char) (r : List Char) (line column : Nat) (indents : List Nat) (place : Option KeyPlace)
    (outer : List (Option KeyPlace)) (keyAllowed : Bool) (tokens : List Token) :
    goTo ⟨c :: r, line, column, indents, place, outer, keyAllowed, tokens⟩ r =
      ⟨r, (placeAfter line column [c]).1, (placeAfter line column [c]).2, indents, place, outer, keyAllowed, tokens⟩ :=
  goTo_append [c] r line column indents place outer keyAllowed tokens

theorem goTo_self (s : Scan) : s.goTo s.rest = s := by
  exact goTo_append [] s.rest s.line s.column s.indents s.place s.outer s.keyAllowed s.tokens

/-- characters that stay in their line -/
theorem placeAfter_line {l : List Char} (h : ∀ c ∈ l, isBreak c = false ∧ c ≠ '\uFEFF') (line column : Nat) :
    placeAfter line column l = (line, column + l.length) := by
  induction l generalizing column with
  | nil => rfl
  | cons c l ih =>
    obtain ⟨hb, hc⟩ := h c List.mem_cons_self
    rw [placeAfter, hb, if_neg Bool.false_ne_true, if_neg hc, ih fun d hd => h d (List.mem_cons_of_mem c hd)]
    simp only [List.length_cons, Prod.mk.injEq, true_and]
    omega

/-- the next line starts at its first column -/
theorem placeAfter_break (l : List Char) (line column : Nat) : (placeAfter line column (l ++ ['\n'])).2 = 0 := by
  induction l generalizing line column with
  | nil => rfl
  | cons c l ih =>
    rw [List.cons_append, placeAfter]
    split_ifs
    · exact ih _ _
    · exact ih _ _
    · exact ih _ _

/-! ## Going on to a token -/

/-- whether a token or the end of the text is next -/
def isNear (cs : List Char) : Bool := cs.head?.all fun c => !isBreak c && c ≠ ' ' && c ≠ '#'

theorem skipSpace_near {flow keyAllowed : Bool} {cs : List Char} (h : isNear cs = true) :
    skipSpace flow keyAllowed false cs = (cs, keyAllowed) := by
  cases cs with
  | nil => rfl
  | cons c cs =>
    simp only [isNear, List.head?_cons, Option.all_some, Bool.and_eq_true, Bool.not_eq_true', decide_eq_true_eq] at h
    simp [skipSpace, h.1.1, h.1.2, h.2]

theorem toToken_near {s : Scan} (h : isNear s.rest = true) : s.toToken = s := by
  rw [toToken, skipSpace_near h]
  dsimp only
  rw [goTo_self]

theorem toToken_blank {s : Scan} {cs : List Char} (hs : s.rest = ' ' :: cs) (h : isNear cs = true) :
    s.toToken = { s with rest := cs, column := s.column + 1 } := by
  obtain ⟨rest, line, column, indents, place, outer, keyAllowed, tokens⟩ := s
  obtain rfl : rest = ' ' :: cs := hs
  have hskip : ∀ flow, skipSpace flow keyAllowed false (' ' :: cs) = (cs, keyAllowed) := by
    intro flow
    rw [skipSpace, if_neg (by decide), if_neg (by decide), if_pos rfl]
    exact skipSpace_near h
  rw [toToken, hskip]
  dsimp only
  rw [goTo_cons]
  rfl

theorem toToken_break {s : Scan} {cs : List Char} (hs : s.rest = '\n' :: cs) (hflow : s.outer = [])
    (h : isNear cs = true) :
    s.toToken = { s with rest := cs, line := s.line + 1, column := 0, keyAllowed := true } := by
  obtain ⟨rest, line, column, indents, place, outer, keyAllowed, tokens⟩ := s
  obtain rfl : rest = '\n' :: cs := hs
  obtain rfl : outer = [] := hflow
  have hskip : skipSpace false keyAllowed false ('\n' :: cs) = (cs, true) := by
    have hbreak : isBreak '\n' = true := rfl
    rw [skipSpace, hbreak, if_pos rfl, skipSpace_near h]
    simp
  have hinFlow : inFlow ⟨'\n' :: cs, line, column, indents, place, [], keyAllowed, tokens⟩ = false := rfl
  rw [toToken, hinFlow, hskip]
  dsimp only
  rw [goTo_cons]
  rfl

theorem length_toToken (s : Scan) : s.toToken.rest.length ≤ s.rest.length := by
  have hskip : ∀ flow keyAllowed comment cs, (skipSpace flow keyAllowed comment cs).1.length ≤ cs.length := by
    intro flow keyAllowed comment cs
    fun_induction skipSpace flow keyAllowed comment cs <;> simp <;> omega
  exact hskip s.inFlow s.keyAllowed false s.rest

/-! ## Where collections stay open -/

theorem closeTo_of_le {s : Scan} {column : Nat} (h : ∀ i ∈ s.indents, i ≤ column) : s.closeTo column = s := by
  have hclosed : s.indents.takeWhile (column < ·) = [] := by
    cases hi : s.indents with
    | nil => rfl
    | cons i is => exact List.takeWhile_cons_of_neg (by simpa using h i (by rw [hi]; exact List.mem_cons_self))
  unfold closeTo
  rw [hclosed]
  split_ifs <;> rfl

theorem dropStale_none {s : Scan} (hplace : s.place = none) (hflow : s.outer = []) : s.dropStale = some s := by
  obtain ⟨rest, line, column, indents, place, outer, keyAllowed, tokens⟩ := s
  obtain rfl : place = none := hplace
  obtain rfl : outer = [] := hflow
  rfl

theorem dropStale_some {s : Scan} {p : KeyPlace} (hplace : s.place = some p) (hflow : s.outer = [])
    (hfresh : KeyPlace.isFresh s.line s.rest.length p = true) : s.dropStale = some s := by
  obtain ⟨rest, line, column, indents, place, outer, keyAllowed, tokens⟩ := s
  obtain rfl : place = some p := hplace
  obtain rfl : outer = [] := hflow
  dsimp only at hfresh
  simp [dropStale, hfresh]

/-! ## Tokens -/

/-- characters that never start a plain scalar -/
def marks : List Char := "#,[]\x7b\x7d&*!|>'\"%@\x60".toList

theorem mem_of_isIndicator {c : Char} (h : isIndicator c = true) : c ∈ ['-', '?', ':'] ∨ c ∈ marks := by
  have hall :
      "-?:,[]\x7b\x7d#&*!|>'\"%@\x60".toList.all (fun d => decide (d ∈ ['-', '?', ':'] ∨ d ∈ marks)) = true := by
    decide
  rw [isIndicator, List.contains_iff_mem] at h
  exact of_decide_eq_true (List.all_eq_true.1 hall c h)

theorem startsPlain_of_not_mem {c : Char} {cs : List Char} (hspace : isSpace c = false) (hmarks : c ∉ marks)
    (hword : c = '-' ∨ c = '?' ∨ c = ':' → atSpace cs = false) : startsPlain false (c :: cs) = true := by
  rw [startsPlain, hspace]
  cases hindicator : isIndicator c with
  | false => rfl
  | true =>
    have hc : c = '-' ∨ c = '?' ∨ c = ':' := by
      simpa using (mem_of_isIndicator hindicator).resolve_right hmarks
    rw [hword hc]
    rcases hc with rfl | rfl | rfl <;> rfl

/-- a plain scalar outside brackets -/
theorem token_plain {s : Scan} {c : Char} {cs : List Char} (hflow : s.outer = [])
    (hmark : s.column = 0 → atDocumentMark (c :: cs) = false) (hspace : isSpace c = false) (hmarks : c ∉ marks)
    (hword : c = '-' ∨ c = '?' ∨ c = ':' → atSpace cs = false) : s.token c cs = expect s.plainScalar := by
  have hinFlow : s.inFlow = false := by rw [inFlow, hflow]; rfl
  have hne : ∀ d ∈ marks, c ≠ d := by
    rintro d hd rfl
    exact hmarks hd
  have hstart := startsPlain_of_not_mem hspace hmarks hword
  have hblock : ¬ (c = '-' ∧ atSpace cs = true) := fun h => by simp [hword (.inl h.1)] at h
  have hkey : ¬ (c = '?' ∧ (s.inFlow || atSpace cs) = true) := fun h => by simp [hinFlow, hword (.inr (.inl h.1))] at h
  have hvalue : ¬ (c = ':' ∧ (s.inFlow || atSpace cs) = true) :=
    fun h => by simp [hinFlow, hword (.inr (.inr h.1))] at h
  have hdocument : ¬ (s.column = 0 ∧ atDocumentMark (c :: cs) = true) := fun h => by simp [hmark h.1] at h
  rw [token, if_neg fun h => hne '%' (by decide) h.1, if_neg hdocument, if_neg (hne '[' (by decide)),
    if_neg (hne '\x7b' (by decide)), if_neg (hne ']' (by decide)), if_neg (hne '\x7d' (by decide)),
      if_neg (hne ',' (by decide)),
    if_neg hblock, if_neg hkey, if_neg hvalue, if_neg (hne '*' (by decide)), if_neg (hne '&' (by decide)),
    if_neg (hne '!' (by decide)), if_neg fun h => hne '|' (by decide) h.1, if_neg fun h => hne '>' (by decide) h.1,
    if_neg (hne '\x27' (by decide)), if_neg (hne '\x22' (by decide)), hinFlow, hstart, if_pos rfl]

theorem token_colon {s : Scan} {cs : List Char} (hcolumn : s.column ≠ 0) (hspace : atSpace cs = true) :
    s.token ':' cs = expect (s.valueMark cs) := by
  simp [token, hcolumn, hspace]

theorem token_quote {s : Scan} (double : Bool) {cs : List Char} (hcolumn : s.column ≠ 0) :
    s.token (if double then '\x22' else '\x27') cs = s.quotedScalar double cs := by
  cases double <;> simp [token, hcolumn]

/-! ## Keys -/

/-- letters that keys are made of here -/
def isKeyLetter (c : Char) : Bool := 'a' ≤ c && c ≤ 'z'

/-- keys that are a word of small letters, short enough to stand without a mark -/
structure IsKey (key : List Char) : Prop where
  ne_nil : key ≠ []
  letters : ∀ c ∈ key, isKeyLetter c = true
  short : key.length ≤ keyLimit

theorem ne_of_isKeyLetter {c d : Char} (hc : isKeyLetter c = true) (hd : isKeyLetter d = false) : c ≠ d := by
  rintro rfl
  rw [hc] at hd
  cases hd

theorem isBasic_of_isKeyLetter {c : Char} (h : isKeyLetter c = true) : isBasic c = true := by
  simp only [isKeyLetter, Bool.and_eq_true, decide_eq_true_eq] at h
  have hlow : ' ' ≤ c := Char.le_trans (by decide : ' ' ≤ 'a') h.1
  have hhigh : c ≤ '~' := Char.le_trans h.2 (by decide : 'z' ≤ '~')
  exact isBasic_of_isAsciiPrintable (by simp [isAsciiPrintable, hlow, hhigh])

theorem isSpace_of_isKeyLetter {c : Char} (h : isKeyLetter c = true) : isSpace c = false := by
  have hne : ∀ d, isKeyLetter d = false → c ≠ d := fun d => ne_of_isKeyLetter h
  simp [isSpace, isBlank, isBreak, hne ' ' rfl, hne '\t' rfl, hne '\n' rfl, hne '\u0085' rfl, hne '\u2028' rfl,
    hne '\u2029' rfl]

theorem isNear_of_isKeyLetter {c : Char} (h : isKeyLetter c = true) (cs : List Char) : isNear (c :: cs) = true := by
  have hspace := isSpace_of_isKeyLetter h
  rw [isSpace, Bool.or_eq_false_iff] at hspace
  simp [isNear, hspace.2, ne_of_isKeyLetter h (d := ' ') rfl, ne_of_isKeyLetter h (d := '#') rfl]

theorem atDocumentMark_of_isKeyLetter {c : Char} (h : isKeyLetter c = true) (cs : List Char) :
    atDocumentMark (c :: cs) = false := by
  simp [atDocumentMark, ne_of_isKeyLetter h (d := '-') rfl, ne_of_isKeyLetter h (d := '.') rfl]

theorem not_mem_marks_of_isKeyLetter {c : Char} (h : isKeyLetter c = true) : c ∉ marks := by
  have hmarks : marks.all (!isKeyLetter ·) = true := by decide
  intro hc
  have hletter := List.all_eq_true.1 hmarks c hc
  rw [h] at hletter
  cases hletter

theorem IsKey.isWord {key : List Char} (h : IsKey key) : IsWord key := by
  refine ⟨h.ne_nil, fun c hc => isSpace_of_isKeyLetter (h.letters c hc), ?_, ?_⟩
  · intro hhash
    exact ne_of_isKeyLetter (h.letters '#' (List.mem_of_mem_head? hhash)) (d := '#') rfl rfl
  · rintro a b rfl
    exact absurd (h.letters ':' (by simp)) (by decide)

/-- the scanner at the first column of a line, where no key is pending -/
def atLine (cs : List Char) (line : Nat) (indents : List Nat) (ts : List Token) : Scan :=
  ⟨cs, line, 0, indents, none, [], true, ts⟩

/-- the scanner after a key -/
def afterKey (key cs : List Char) (line : Nat) (indents : List Nat) (required : Bool) (ts : List Token) : Scan :=
  ⟨':' :: ' ' :: cs, line, key.length, indents,
    some ⟨ts.length, required, (key ++ ':' :: ' ' :: cs).length, line, 0⟩, [], false,
    .scalar true (pieces key) :: ts⟩

theorem plainScalar_key {key : List Char} (hkey : IsKey key) (cs : List Char) (line : Nat) (indents : List Nat)
    (ts : List Token) :
    ∃ required, (atLine (key ++ ':' :: ' ' :: cs) line indents ts).plainScalar =
      some (afterKey key cs line indents required ts) := by
  have hplace : ∀ l column, placeAfter l column key = (l, column + key.length) := by
    refine placeAfter_line fun c hc => ⟨?_, ne_of_isKeyLetter (hkey.letters c hc) rfl⟩
    have hspace := isSpace_of_isKeyLetter (hkey.letters c hc)
    rw [isSpace, Bool.or_eq_false_iff] at hspace
    exact hspace.2
  have hread : ∀ indent, readPlain false indent (key ++ ':' :: ' ' :: cs) = ⟨key, ':' :: ' ' :: cs, false⟩ :=
    fun indent => readPlainFrom_key hkey.isWord false
  refine ⟨!inFlow (atLine (key ++ ':' :: ' ' :: cs) line indents ts) && indents.head? = some 0, ?_⟩
  simp [plainScalar, notePlace, dropPlace, atLine, inFlow, hread, goTo_append, emit, hplace, afterKey]
  rfl

/-- the step for a key -/
theorem run_key {s : Scan} {key cs : List Char} {line : Nat} {indents : List Nat} {ts : List Token} (hkey : IsKey key)
    (hindents : ∀ i ∈ indents, i = 0) (hs : s.toToken = atLine (key ++ ':' :: ' ' :: cs) line indents ts) :
    ∃ required, s.run = (afterKey key cs line indents required ts).run := by
  obtain ⟨required, hscalar⟩ := plainScalar_key hkey cs line indents ts
  obtain ⟨c, w, rfl⟩ := List.exists_cons_of_ne_nil hkey.ne_nil
  have hc := hkey.letters c List.mem_cons_self
  refine ⟨required, run_eq_run s.toToken c (w ++ ':' :: ' ' :: cs) ?_ (by rw [hs]; rfl) ?_ ?_⟩
  · rw [hs]
    exact dropStale_none rfl rfl
  · have hword : ¬ (c = '-' ∨ c = '?' ∨ c = ':') := by
      rintro (h | h | h) <;> exact ne_of_isKeyLetter hc rfl h
    have hclose : (atLine (c :: w ++ ':' :: ' ' :: cs) line indents ts).closeTo 0 =
        atLine (c :: w ++ ':' :: ' ' :: cs) line indents ts :=
      closeTo_of_le fun i hi => (hindents i hi).le
    rw [hs]
    show ((atLine (c :: w ++ ':' :: ' ' :: cs) line indents ts).closeTo 0).token c (w ++ ':' :: ' ' :: cs) = _
    rw [hclose, token_plain rfl (fun _ => atDocumentMark_of_isKeyLetter hc _) (isSpace_of_isKeyLetter hc)
        (not_mem_marks_of_isKeyLetter hc) (fun h => absurd h hword), hscalar]
    rfl
  · have hle := length_toToken s
    rw [hs] at hle
    refine lt_of_lt_of_le ?_ hle
    simp [afterKey, atLine]

/-- the step for the colon after a key; the first key opens the mapping -/
theorem run_colon {key : List Char} {indents : List Nat} (hkey : IsKey key) (hindents : indents = [] ∨ indents = [0])
    (cs : List Char) (line : Nat) (required : Bool) (ts : List Token) :
    (afterKey key cs line indents required ts).run =
      run ⟨' ' :: cs, line, key.length + 1, [0], none, [], false,
        .value :: .scalar true (pieces key) :: .key :: ((if indents = [] then [.blockMapping] else []) ++ ts)⟩ := by
  have hnear : (afterKey key cs line indents required ts).toToken = afterKey key cs line indents required ts :=
    toToken_near rfl
  have hcolumn : (afterKey key cs line indents required ts).column ≠ 0 := (List.length_pos_of_ne_nil hkey.ne_nil).ne'
  have hclose : (afterKey key cs line indents required ts).closeTo key.length =
      afterKey key cs line indents required ts := by
    refine closeTo_of_le fun i hi => ?_
    rcases hindents with rfl | rfl
    · cases hi
    · rw [List.mem_singleton.1 hi]
      exact Nat.zero_le _
  refine run_eq_run (afterKey key cs line indents required ts) ':' (' ' :: cs) ?_ rfl ?_ (by simp [afterKey])
  · rw [hnear]
    refine dropStale_some rfl rfl ?_
    show (decide (line = line) &&
      decide ((key ++ ':' :: ' ' :: cs).length - (':' :: ' ' :: cs).length ≤ keyLimit)) = true
    rw [List.length_append, Nat.add_sub_cancel]
    simpa using hkey.short
  · show ((afterKey key cs line indents required ts).closeTo key.length).token ':' (' ' :: cs) = _
    rw [hclose, token_colon hcolumn rfl]
    have hnumber : ts.length + 1 + 1 - ts.length = 2 := by omega
    rcases hindents with rfl | rfl <;>
      simp [valueMark, afterKey, insert, inFlow, opensAt, emit, goTo_cons, placeAfter, isBreak, expect, hnumber]

/-! ## Values -/

/-- the text ends here, or a key starts -/
def startsLine (cs : List Char) : Bool := cs.head?.all isKeyLetter

theorem startsLine_facts {cs : List Char} (h : startsLine cs = true) :
    isNear cs = true ∧ cs.head?.any isSpace = false ∧ atDocumentMark cs = false := by
  cases cs with
  | nil => exact ⟨rfl, rfl, rfl⟩
  | cons c cs => exact ⟨isNear_of_isKeyLetter h cs, isSpace_of_isKeyLetter h, atDocumentMark_of_isKeyLetter h cs⟩

/-- the scanner after a colon -/
def afterColon (cs : List Char) (line column : Nat) (ts : List Token) : Scan :=
  ⟨' ' :: cs, line, column, [0], none, [], false, ts⟩

/-- the step for a value: it starts at a column of its own, and no key can start there -/
theorem run_value {c : Char} {cs : List Char} {line column : Nat} {ts : List Token} {u : Scan}
    (hnear : isNear (c :: cs) = true)
    (hu : (⟨c :: cs, line, column + 1, [0], none, [], false, ts⟩ : Scan).token c cs = .ok u)
    (hlt : u.rest.length < cs.length + 2) :
    (afterColon (c :: cs) line column ts).run = u.run := by
  have htoken : (afterColon (c :: cs) line column ts).toToken = ⟨c :: cs, line, column + 1, [0], none, [], false, ts⟩ :=
    toToken_blank rfl hnear
  refine run_eq_run ⟨c :: cs, line, column + 1, [0], none, [], false, ts⟩ c cs ?_ rfl ?_ hlt
  · rw [htoken]
    exact dropStale_none rfl rfl
  · rw [closeTo_of_le (by simp)]
    exact hu

theorem quotedScalar_eq {s : Scan} {double : Bool} {cs r : List Char} {ps : List Piece} (hkey : s.keyAllowed = false)
    (hread : readQuoted double cs = .ok (ps, r)) :
    s.quotedScalar double cs = .ok { (s.emit (.scalar false ps)).goTo r with keyAllowed := false } := by
  simp [quotedScalar, notePlace, hkey, expect, hread]

theorem plainScalar_eq {s : Scan} {p : Plain} (hkey : s.keyAllowed = false)
    (hread : readPlain s.inFlow s.scalarIndent s.rest = p) :
    s.plainScalar = some { (s.emit (.scalar true (pieces p.text))).goTo p.rest with keyAllowed := p.broken } := by
  simp [plainScalar, notePlace, hkey, hread]

/-- a quoted value, and the end of its line -/
theorem run_quoted {double : Bool} {l cs : List Char} {ps : List Piece}
    (hread : readQuoted double (l ++ '\n' :: cs) = .ok (ps, '\n' :: cs)) (hcs : startsLine cs = true)
    (line column : Nat) (ts : List Token) :
    ∃ (u : Scan) (line' : Nat),
      (afterColon ((if double then '\x22' else '\x27') :: (l ++ '\n' :: cs)) line column ts).run = u.run ∧
      u.toToken = atLine cs line' [0] (.scalar false ps :: ts) := by
  set quote := if double then '\x22' else '\x27' with hquote
  have hnear : isNear (quote :: (l ++ '\n' :: cs)) = true := by
    rw [hquote]
    cases double <;> rfl
  set place := placeAfter line (column + 1) (quote :: l) with hplace
  refine ⟨⟨'\n' :: cs, place.1, place.2, [0], none, [], false, .scalar false ps :: ts⟩, place.1 + 1, ?_, ?_⟩
  · refine run_value hnear ?_ ?_
    · rw [hquote, token_quote double (by simp), quotedScalar_eq rfl hread]
      have hgo := goTo_append (quote :: l) ('\n' :: cs) line (column + 1) [0] none [] false (.scalar false ps :: ts)
      rw [List.cons_append] at hgo
      rw [hquote] at hgo hplace
      simp only [emit, hgo, hplace]
    · simp only [List.length_append, List.length_cons]
      omega
  · exact toToken_break rfl rfl (startsLine_facts hcs).1

/-! A plain value has no mark in front, and a dash, a question mark or a colon there is no indicator. -/

theorem notMem_marks {c : Char} {cs : List Char} (h : hasFirstMark (c :: cs) = false) : c ∉ marks := by
  rw [hasFirstMark, Bool.or_eq_false_iff] at h
  have hcontains : marks.contains c = false := h.1
  rwa [List.contains_eq_mem, decide_eq_false_iff_not] at hcontains

/-- what follows the first character is written right after it, unless it is a blank -/
theorem atSpace_writePlain {c : Char} {cs : List Char} (h : hasFirstMark (c :: cs) = false)
    (hc : c = '-' ∨ c = '?' ∨ c = ':') (column : Nat) (rest : List Char) :
    atSpace (writePlain column true cs ++ rest) = false := by
  rw [hasFirstMark, Bool.or_eq_false_iff] at h
  have hend : atWordEnd cs = false := by
    rcases hc with rfl | rfl | rfl <;> exact h.2
  cases cs with
  | nil => cases hend
  | cons d cs =>
    simp only [atWordEnd, List.head?_cons, Option.all_some, Bool.or_eq_false_iff] at hend
    have hd : d ≠ ' ' := by
      rintro rfl
      exact absurd hend.1.1 (by decide)
    rw [writePlain, if_neg hd]
    exact hend.1.1

/-- a plain value; it ends at the start of the next line -/
theorem run_plain {value cs : List Char} (hne : value ≠ []) (hdouble : needsDouble value = false)
    (hplain : canBePlain value = true) (hcs : startsLine cs = true) (written line column : Nat) (ts : List Token) :
    ∃ (u : Scan) (line' : Nat), (afterColon (writePlain written false value ++ '\n' :: cs) line column ts).run = u.run ∧
      u.toToken = atLine cs line' [0] (.scalar true (pieces value) :: ts) := by
  have hvalue := isPlain_of_canBePlain hne hdouble hplain
  obtain ⟨hnear, hspace, hmark⟩ := startsLine_facts hcs
  have hread := readPlainFrom_writePlain hvalue hspace hmark ⟨Nat.one_pos, by decide⟩ written false false
  have hfirst : hasFirstMark value = false := by
    simp only [canBePlain, Bool.and_eq_true, Bool.not_eq_true'] at hplain
    exact hplain.1.2
  obtain ⟨c, t, rfl⟩ := List.exists_cons_of_ne_nil hne
  have hc : c ≠ ' ' := by simpa using hvalue.head_blank
  have hcspace : isSpace c = false := hvalue.isSpace_of_ne List.mem_cons_self hc
  have hword : c = '-' ∨ c = '?' ∨ c = ':' → atSpace (writePlain (written + 1) true t ++ '\n' :: cs) = false :=
    fun h => atSpace_writePlain hfirst h _ _
  rw [writePlain, if_neg hc, List.cons_append] at hread ⊢
  set w := writePlain (written + 1) true t with hw
  have hnearValue : isNear (c :: (w ++ '\n' :: cs)) = true := by
    rw [isSpace, Bool.or_eq_false_iff] at hcspace
    have hhash : c ≠ '#' := by simpa using hvalue.head_hash
    simp [isNear, hcspace.2, hc, hhash]
  set place := placeAfter line (column + 1) (c :: w ++ ['\n']) with hplace
  refine ⟨⟨cs, place.1, place.2, [0], none, [], true, .scalar true (pieces (c :: t)) :: ts⟩, place.1, ?_, ?_⟩
  · refine run_value hnearValue ?_ ?_
    · have hscalar :=
        plainScalar_eq (s := ⟨c :: (w ++ '\n' :: cs), line, column + 1, [0], none, [], false, ts⟩) rfl hread
      have hgo :=
        goTo_append (c :: w ++ ['\n']) cs line (column + 1) [0] none [] false (.scalar true (pieces (c :: t)) :: ts)
      rw [List.append_assoc, List.cons_append, List.singleton_append] at hgo
      rw [token_plain rfl (by simp) hcspace (notMem_marks hfirst) hword, hscalar]
      simp only [expect, emit, hgo, hplace]
    · simp only [List.length_append, List.length_cons]
      omega
  · rw [toToken_near hnear, atLine, hplace, placeAfter_break]

/-- where a value has no quotes, it is a text that looks like one -/
def LooksLikeText (plain : Bool) (value : Str) : Prop :=
  plain = true → ∃ s, value = .text s ∧ Tag.ofPlain s.toList = .text

/-- a value in double quotes -/
theorem run_writeQuoted {cs : List Char} (hcs : startsLine cs = true) (ps : List Piece) (written line column : Nat)
    (ts : List Token) :
    ∃ (u : Scan) (line' : Nat), (afterColon (writeQuoted written ps ++ '\n' :: cs) line column ts).run = u.run ∧
      u.toToken = atLine cs line' [0] (.scalar false ps :: ts) := by
  have hread := readQuoted_writeDouble (written + 1) true ps ('\n' :: cs)
  rw [← List.singleton_append, ← List.append_assoc] at hread
  exact run_quoted hread hcs line column ts

/-- a text in any style; `plain` says whether it has no quotes -/
theorem run_writeText {cs : List Char} (hcs : startsLine cs = true) (value : List Char) (written line column : Nat)
    (ts : List Token) :
    ∃ (u : Scan) (line' : Nat) (plain : Bool),
      (afterColon (writeText written value ++ '\n' :: cs) line column ts).run = u.run ∧
      u.toToken = atLine cs line' [0] (.scalar plain (pieces value) :: ts) ∧
        (plain = true → Tag.ofPlain value = .text) := by
  have hquote : ('\n' :: cs).head? ≠ some '\x27' := by simp
  unfold writeText
  split_ifs with hne hdouble hplain
  · have hread : readQuoted false (['\x27'] ++ '\n' :: cs) = .ok ([], '\n' :: cs) := readQuoted_closingQuote hquote
    obtain ⟨u, line', hrun, hu⟩ := run_quoted hread hcs line column ts
    exact ⟨u, line', false, hrun, by rw [hu, hne]; rfl, by simp⟩
  · obtain ⟨u, line', hrun, hu⟩ := run_writeQuoted hcs (pieces value) written line column ts
    exact ⟨u, line', false, hrun, hu, by simp⟩
  · rw [Bool.not_eq_true, Bool.or_eq_false_iff] at hdouble
    obtain ⟨u, line', hrun, hu⟩ := run_plain hne hdouble.1 hplain hcs written line column ts
    have htext : Tag.ofPlain value = .text := by
      simp only [canBePlain, Bool.and_eq_true, decide_eq_true_eq] at hplain
      exact hplain.1.1.1.1.1.1.1
    exact ⟨u, line', true, hrun, hu, fun _ => htext⟩
  · rw [Bool.not_eq_true, Bool.or_eq_false_iff] at hdouble
    have hread := readQuoted_writeSingle (isBasic_of_needsDouble hdouble.1) hdouble.2 hquote (written + 1) false
    rw [← List.singleton_append, ← List.append_assoc] at hread
    obtain ⟨u, line', hrun, hu⟩ := run_quoted hread hcs line column ts
    exact ⟨u, line', false, hrun, hu, by simp⟩

/-- a value in any style -/
theorem run_scalar {cs : List Char} (hcs : startsLine cs = true) (value : Str) (written line column : Nat)
    (ts : List Token) :
    ∃ (u : Scan) (line' : Nat) (plain : Bool),
      (afterColon (writeScalar written value ++ '\n' :: cs) line column ts).run = u.run ∧
      u.toToken = atLine cs line' [0] (.scalar plain value.pieces :: ts) ∧ LooksLikeText plain value := by
  cases value with
  | text s =>
    obtain ⟨u, line', plain, hrun, hu, hplain⟩ := run_writeText hcs s.toList written line column ts
    exact ⟨u, line', plain, hrun, hu, fun h => ⟨s, rfl, hplain h⟩⟩
  | unpaired v =>
    obtain ⟨u, line', hrun, hu⟩ := run_writeQuoted hcs v.pieces written line column ts
    exact ⟨u, line', false, hrun, hu, nofun⟩

/-! ## Entries -/

/-- an entry of a mapping in a line of its own; `plain` says whether its value has no quotes -/
theorem run_entry {s : Scan} {key : String} {value : Str} {more : List Char} {line : Nat} {indents : List Nat} {ts : List Token}
    (hkey : IsKey key.toList) (hmore : startsLine more = true) (hindents : indents = [] ∨ indents = [0])
    (hs : s.toToken = atLine (writeEntry key value ++ more) line indents ts) :
    ∃ (u : Scan) (line' : Nat) (plain : Bool), s.run = u.run ∧ LooksLikeText plain value ∧
      u.toToken =
        atLine more line' [0] (.scalar plain value.pieces :: .value :: .scalar true (pieces key.toList) :: .key ::
        ((if indents = [] then [.blockMapping] else []) ++ ts)) := by
  have hentry : writeEntry key value ++ more =
      key.toList ++ ':' :: ' ' :: (writeScalar (key.length + 2) value ++ '\n' :: more) := by
    simp [writeEntry]
  have hzero : ∀ i ∈ indents, i = 0 := by
    rcases hindents with rfl | rfl
    · exact List.forall_mem_nil _
    · exact List.forall_mem_singleton.2 rfl
  rw [hentry] at hs
  obtain ⟨required, hrun⟩ := run_key hkey hzero hs
  have hcolon := run_colon hkey hindents (writeScalar (key.length + 2) value ++ '\n' :: more) line required ts
  obtain ⟨u, line', plain, hvalue, hu, hplain⟩ := run_scalar hmore value (key.length + 2) line (key.toList.length + 1)
    (.value :: .scalar true (pieces key.toList) :: .key :: ((if indents = [] then [.blockMapping] else []) ++ ts))
  refine ⟨u, line', plain, ?_, hplain, hu⟩
  calc s.run
    _ = (afterKey key.toList (writeScalar (key.length + 2) value ++ '\n' :: more) line indents required ts).run := hrun
    _ = (afterColon (writeScalar (key.length + 2) value ++ '\n' :: more) line (key.toList.length + 1)
          (.value :: .scalar true (pieces key.toList) :: .key ::
            ((if indents = [] then [Token.blockMapping] else []) ++ ts))).run := hcolon
    _ = u.run := hvalue

/-- where the text ends, the mapping is closed -/
theorem run_end {s : Scan} {line : Nat} {ts : List Token} (hs : s.toToken = atLine [] line [0] ts) :
    s.run = (.blockEnd :: ts).reverse := by
  rw [run, hs]
  rfl

end Scan

/-- the lines of a mapping -/
def writeEntries (es : List (String × Str)) : List Char := es.flatMap fun e => writeEntry e.1 e.2

/-- tokens of the entries of a mapping; a value without quotes looks like a text -/
inductive EntryTokens : List (String × Str) → List Token → Prop
  | nil : EntryTokens [] []
  | cons {key : String} {value : Str} {plain : Bool} {es : List (String × Str)} {ts : List Token}
      (hplain : Scan.LooksLikeText plain value) (hrest : EntryTokens es ts) :
      EntryTokens ((key, value) :: es)
        (.key :: .scalar true (pieces key.toList) :: .value :: .scalar plain value.pieces :: ts)

theorem isBasic_of_mem_writeEntries {es : List (String × Str)} (hkeys : ∀ e ∈ es, Scan.IsKey e.1.toList) :
    ∀ c ∈ writeEntries es, isBasic c = true := by
  intro c hc
  obtain ⟨e, he, hc⟩ := List.mem_flatMap.1 hc
  exact isBasic_of_mem_writeEntry (fun d hd => Scan.isBasic_of_isKeyLetter ((hkeys e he).letters d hd)) e.2 c hc

theorem startsLine_writeEntries {es : List (String × Str)} (hkeys : ∀ e ∈ es, Scan.IsKey e.1.toList) :
    Scan.startsLine (writeEntries es) = true := by
  cases es with
  | nil => rfl
  | cons e es =>
    have hkey := hkeys e List.mem_cons_self
    obtain ⟨c, w, hc⟩ := List.exists_cons_of_ne_nil hkey.ne_nil
    have hletter : Scan.isKeyLetter c = true := hkey.letters c (by rw [hc]; exact List.mem_cons_self)
    simp [writeEntries, writeEntry, hc, Scan.startsLine, hletter]

/-- the entries that are left, after at least one -/
theorem run_writeEntries {es : List (String × Str)} (hkeys : ∀ e ∈ es, Scan.IsKey e.1.toList) {s : Scan}
    {line : Nat} {ts : List Token} (hs : s.toToken = Scan.atLine (writeEntries es) line [0] ts) :
    ∃ new, EntryTokens es new ∧ s.run = ts.reverse ++ new ++ [.blockEnd] := by
  induction es generalizing s line ts with
  | nil => exact ⟨[], .nil, by rw [Scan.run_end hs]; simp⟩
  | cons e es ih =>
    obtain ⟨hkey, hrest⟩ := List.forall_mem_cons.1 hkeys
    rw [writeEntries, List.flatMap_cons, ← writeEntries] at hs
    obtain ⟨u, line', plain, hrun, hplain, hu⟩ := Scan.run_entry hkey (startsLine_writeEntries hrest) (.inr rfl) hs
    obtain ⟨new, hnew, hmore⟩ := ih hrest hu
    refine ⟨_, .cons hplain hnew, ?_⟩
    rw [hrun, hmore]
    simp

/-- **The tokens of a written mapping.** A mapping of at least one entry has the tokens of its entries between those of
a block mapping, and its values are scalars that hold the strings that were written. -/
theorem tokens_writeEntries {es : List (String × Str)} (hne : es ≠ []) (hkeys : ∀ e ∈ es, Scan.IsKey e.1.toList) :
    ∃ new, EntryTokens es new ∧ tokens (writeEntries es) = .ok (.blockMapping :: new ++ [.blockEnd]) := by
  have hbasic := isBasic_of_mem_writeEntries hkeys
  have hprintable : (writeEntries es).all isPrintable = true :=
    List.all_eq_true.2 fun c hc => isPrintable_of_isBasic (hbasic c hc)
  have hmark : (writeEntries es).head? ≠ some '\uFEFF' := by
    intro h
    exact ne_of_isBasic (hbasic _ (List.mem_of_mem_head? h)) (d := '\uFEFF') rfl rfl
  have hstart : (Scan.start (writeEntries es)).toToken = Scan.atLine (writeEntries es) 0 [] [] := by
    rw [Scan.start, if_neg hmark]
    exact Scan.toToken_near (Scan.startsLine_facts (startsLine_writeEntries hkeys)).1
  rw [tokens, if_pos hprintable]
  obtain ⟨e, es, rfl⟩ := List.exists_cons_of_ne_nil hne
  obtain ⟨hkey, hrest⟩ := List.forall_mem_cons.1 hkeys
  conv_rhs at hstart => rw [writeEntries, List.flatMap_cons, ← writeEntries]
  obtain ⟨u, line', plain, hrun, hplain, hu⟩ := Scan.run_entry hkey (startsLine_writeEntries hrest) (.inl rfl) hstart
  obtain ⟨new, hnew, hmore⟩ := run_writeEntries hrest hu
  refine ⟨_, .cons hplain hnew, ?_⟩
  rw [hrun, hmore]
  simp

end SchemaTypings.Yaml
