/-
How numbers and strings are written, and that the lexer reads them so.

`StringBody` and `BlockBody` say what stands between the quotes of a string and of a block string, escapes included, and
`Spelled` adds them and the numbers to names and punctuators. `Spelled.reads`: each of these is read as its token, and
not beyond it. `spelled_of_read`: the lexer takes nothing else.
-/
import SchemaTypings.Proofs.Sdl.Written

namespace SchemaTypings.Sdl

open SchemaTypings.Text

/-! ## Numbers -/

def IsDigits (cs : List Char) : Prop := cs ≠ [] ∧ ∀ c ∈ cs, isDigit c = true

/-- whole parts: zero, or digits that do not start with zero -/
def IsWhole (cs : List Char) : Prop := cs = ['0'] ∨ IsDigits cs ∧ cs.head? ≠ some '0'

/-- fractions, which may be missing -/
def IsFraction (cs : List Char) : Prop := cs = [] ∨ ∃ ds, IsDigits ds ∧ cs = '.' :: ds

/-- exponents, which may be missing -/
def IsExponent (cs : List Char) : Prop :=
  cs = [] ∨ ∃ e sign ds, (e = 'e' ∨ e = 'E') ∧ (sign = [] ∨ sign = ['+'] ∨ sign = ['-']) ∧ IsDigits ds ∧
    cs = e :: (sign ++ ds)

/-- numbers do not go on here: with no dot, and with no letter or digit -/
theorem isApart_not_number {cs : List Char} (h : isApart cs = true) :
    cs.head?.any isDigit = false ∧ cs.head? ≠ some '.' ∧ (cs.head? ≠ some 'e' ∧ cs.head? ≠ some 'E') ∧
      (cs.head?.any fun c => c = '.' || isNameStart c) = false := by
  cases cs with
  | nil => simp
  | cons c cs =>
    simp only [isApart, isSeparator, List.head?_cons, Option.all_some, Bool.or_eq_true, decide_eq_true_eq] at h
    rw [List.head?_cons, Option.any_some, Option.any_some]
    rcases h with (((((rfl | rfl) | rfl) | rfl) | rfl) | rfl) | rfl <;> decide

theorem readDigits_append {ds rest : List Char} (h : IsDigits ds) (hrest : rest.head?.any isDigit = false) :
    readDigits (ds ++ rest) = .ok (ds, rest) := by
  obtain ⟨hne, hall⟩ := h
  obtain ⟨htake, hdrop⟩ := takeWhile_append_stop hall hrest
  have hhead : (ds ++ rest).head?.any isDigit = true := by
    cases ds with
    | nil => exact absurd rfl hne
    | cons d ds => simpa using hall d List.mem_cons_self
  rw [readDigits, if_pos hhead, htake, hdrop]

theorem readWhole_append {ds rest : List Char} (h : IsWhole ds) (hrest : rest.head?.any isDigit = false) :
    readWhole (ds ++ rest) = .ok (ds, rest) := by
  rcases h with rfl | ⟨hds, hzero⟩
  · cases rest with
    | nil => rfl
    | cons c rest =>
      rw [List.head?_cons, Option.any_some] at hrest
      simp [readWhole, hrest]
  · have hread := readDigits_append hds hrest
    unfold readWhole
    split
    · next c cs hcs =>
      cases ds with
      | nil => exact absurd rfl hds.1
      | cons d ds =>
        rw [List.cons_append, List.cons.injEq] at hcs
        exact absurd (congrArg some hcs.1) hzero
    · exact hread

theorem readFraction_append {cs rest : List Char} (h : IsFraction cs) (hdot : rest.head? ≠ some '.')
    (hrest : rest.head?.any isDigit = false) : readFraction (cs ++ rest) = .ok (cs, rest) := by
  rcases h with rfl | ⟨ds, hds, rfl⟩
  · unfold readFraction
    split
    · next ds hds =>
      rw [List.nil_append] at hds
      rw [hds] at hdot
      exact absurd rfl hdot
    · rfl
  · simp [readFraction, readDigits_append hds hrest]

theorem readExponent_append {cs rest : List Char} (h : IsExponent cs)
    (hletter : rest.head? ≠ some 'e' ∧ rest.head? ≠ some 'E') (hrest : rest.head?.any isDigit = false) :
    readExponent (cs ++ rest) = .ok (cs, rest) := by
  rcases h with rfl | ⟨e, sign, ds, he, hsign, hds, rfl⟩
  · cases rest with
    | nil => rfl
    | cons c rest =>
      have hc : ¬(c = 'e' ∨ c = 'E') := by
        rintro (rfl | rfl)
        · exact hletter.1 rfl
        · exact hletter.2 rfl
      rw [List.nil_append, readExponent, if_neg hc]
  · have hsigns : ((sign ++ ds ++ rest).take 1).filter (fun c => c = '+' || c = '-') = sign := by
      rcases hsign with rfl | rfl | rfl
      · cases ds with
        | nil => exact absurd rfl hds.1
        | cons d ds =>
          have hd := hds.2 d List.mem_cons_self
          have hplus : d ≠ '+' := by rintro rfl; exact absurd hd (by decide)
          have hminus : d ≠ '-' := by rintro rfl; exact absurd hd (by decide)
          simp [hplus, hminus]
      · rfl
      · rfl
    have hdrop : (sign ++ ds ++ rest).drop sign.length = ds ++ rest := by simp
    rw [List.cons_append, readExponent, if_pos he]
    simp only [hsigns, hdrop, readDigits_append hds hrest, bind, Except.bind, pure, Except.pure]
    rfl

theorem readWhole_of_ne {cs : List Char} (h : cs.head? ≠ some '0') : readWhole cs = readDigits cs := by
  unfold readWhole
  split
  · exact absurd rfl h
  · rfl

theorem readFraction_of_ne {cs : List Char} (h : cs.head? ≠ some '.') : readFraction cs = .ok ([], cs) := by
  unfold readFraction
  split
  · exact absurd rfl h
  · rfl

theorem readExponent_of_ne {cs : List Char} (h : cs.head? ≠ some 'e' ∧ cs.head? ≠ some 'E') :
    readExponent cs = .ok ([], cs) := by
  cases cs with
  | nil => rfl
  | cons c cs =>
    have hc : ¬(c = 'e' ∨ c = 'E') := by
      rintro (rfl | rfl)
      · exact h.1 rfl
      · exact h.2 rfl
    rw [readExponent, if_neg hc]

theorem IsWhole.starts {cs : List Char} (h : IsWhole cs) : ∃ d ds, cs = d :: ds ∧ isDigit d = true := by
  rcases h with rfl | ⟨⟨hne, hall⟩, _⟩
  · exact ⟨'0', [], rfl, rfl⟩
  · cases cs with
    | nil => exact absurd rfl hne
    | cons d ds => exact ⟨d, ds, rfl, hall d List.mem_cons_self⟩

/-- neither a digit nor a dot follows a fraction -/
theorem IsExponent.follows {cs rest : List Char} (h : IsExponent cs) (hrest : isApart rest = true) :
    (cs ++ rest).head?.any isDigit = false ∧ (cs ++ rest).head? ≠ some '.' := by
  rcases h with rfl | ⟨e, sign, ds, rfl | rfl, _, _, rfl⟩
  · exact ⟨(isApart_not_number hrest).1, (isApart_not_number hrest).2.1⟩
  · exact ⟨rfl, by simp⟩
  · exact ⟨rfl, by simp⟩

/-- no digit follows a whole part -/
theorem IsFraction.follows {cs rest : List Char} (h : IsFraction cs) (hrest : rest.head?.any isDigit = false) :
    (cs ++ rest).head?.any isDigit = false := by
  rcases h with rfl | ⟨ds, _, rfl⟩
  · exact hrest
  · rfl

/-- a number is an integer if it has neither fraction nor exponent -/
def numberToken (sign whole fraction exponent : List Char) : Token :=
  let text := String.ofList (sign ++ whole ++ fraction ++ exponent)
  if fraction = [] ∧ exponent = [] then .int text else .float text

/-- **A number is read up to its end.** -/
theorem readNumber_append {sign whole fraction exponent rest : List Char} (hsign : sign = [] ∨ sign = ['-'])
    (hwhole : IsWhole whole) (hfraction : IsFraction fraction) (hexponent : IsExponent exponent)
    (hrest : isApart rest = true) :
    readNumber (sign ++ whole ++ fraction ++ exponent ++ rest) =
      .ok (numberToken sign whole fraction exponent, rest) := by
  obtain ⟨hdigit, hdot, hletter, hend⟩ := isApart_not_number hrest
  obtain ⟨hdigit', hdot'⟩ := hexponent.follows hrest
  have hfilter : ((sign ++ whole ++ fraction ++ exponent ++ rest).take 1).filter (· = '-') = sign := by
    rcases hsign with rfl | rfl
    · obtain ⟨d, ds, rfl, hd⟩ := hwhole.starts
      have hminus : d ≠ '-' := by rintro rfl; exact absurd hd (by decide)
      simp [hminus]
    · rfl
  have hdrop : (sign ++ whole ++ fraction ++ exponent ++ rest).drop sign.length =
      whole ++ (fraction ++ (exponent ++ rest)) := by simp
  have hw := readWhole_append hwhole (hfraction.follows hdigit')
  have hf := readFraction_append hfraction hdot' hdigit'
  have he := readExponent_append hexponent hletter hdigit
  simp only [readNumber, hfilter, hdrop, hw, hf, he, bind, Except.bind, pure, Except.pure, hend]
  rfl

/-! ## Strings -/

/-- what a string stands for, and how it is written between its quotes -/
inductive StringBody : List Char → List Char → Prop where
  | nil : StringBody [] []
  | plain {c : Char} {v cs : List Char} : c ≠ '"' → c ≠ '\\' → Line.isEnd c = false → StringBody v cs →
      StringBody (c :: v) (c :: cs)
  | letter {e x : Char} {v cs : List Char} : escapeLetter? e = some x → StringBody v cs →
      StringBody (x :: v) ('\\' :: e :: cs)
  | digits {ds v cs : List Char} {n : Nat} {x : Char} : ds.length = 4 → hexNumber? ds = some n → scalar? n = some x →
      StringBody v cs → StringBody (x :: v) ('\\' :: 'u' :: (ds ++ cs))
  | pair {ds es v cs : List Char} {n m : Nat} {x : Char} : ds.length = 4 → hexNumber? ds = some n →
      isHighSurrogate n = true → es.length = 4 → hexNumber? es = some m → isLowSurrogate m = true →
      scalar? (joinSurrogates n m) = some x → StringBody v cs →
      StringBody (x :: v) ('\\' :: 'u' :: (ds ++ '\\' :: 'u' :: (es ++ cs)))
  | braces {ds v cs : List Char} {n : Nat} {x : Char} : ds ≠ [] → ds.length ≤ 8 → hexNumber? ds = some n →
      scalar? n = some x → StringBody v cs → StringBody (x :: v) ('\\' :: 'u' :: '{' :: (ds ++ '}' :: cs))

theorem scalar?_of_isHighSurrogate {n : Nat} (h : isHighSurrogate n = true) : scalar? n = none := by
  simp only [isHighSurrogate, Bool.and_eq_true, decide_eq_true_eq] at h
  rw [scalar?, if_neg]
  unfold Nat.isValidChar
  omega

theorem readFourDigits_digits {ds rest : List Char} {n : Nat} {x : Char} (hlength : ds.length = 4)
    (hn : hexNumber? ds = some n) (hx : scalar? n = some x) : readFourDigits (ds ++ rest) = .ok (x, rest) := by
  have htake : (ds ++ rest).take 4 = ds := by rw [← hlength, List.take_left]
  have hdrop : (ds ++ rest).drop 4 = rest := by rw [← hlength, List.drop_left]
  have hlt : ¬(ds ++ rest).length < 4 := by rw [List.length_append]; omega
  simp only [readFourDigits, htake, hdrop, if_neg hlt, hn, hx]

theorem readFourDigits_pair {ds es rest : List Char} {n m : Nat} {x : Char} (hlength : ds.length = 4)
    (hn : hexNumber? ds = some n) (hhigh : isHighSurrogate n = true) (hlength' : es.length = 4)
    (hm : hexNumber? es = some m) (hlow : isLowSurrogate m = true) (hx : scalar? (joinSurrogates n m) = some x) :
    readFourDigits (ds ++ '\\' :: 'u' :: (es ++ rest)) = .ok (x, rest) := by
  have htake : ∀ us, (ds ++ us).take 4 = ds := fun us => by rw [← hlength, List.take_left]
  have hdrop : ∀ us, (ds ++ us).drop 4 = us := fun us => by rw [← hlength, List.drop_left]
  have htake' : (es ++ rest).take 4 = es := by rw [← hlength', List.take_left]
  have hdrop' : (es ++ rest).drop 4 = rest := by rw [← hlength', List.drop_left]
  have hlt : ∀ us, ¬(ds ++ us).length < 4 := fun us => by rw [List.length_append]; omega
  have hlt' : ¬(es ++ rest).length < 4 := by rw [List.length_append]; omega
  simp only [readFourDigits, htake, hdrop, if_neg (hlt _), hn, scalar?_of_isHighSurrogate hhigh, htake', hdrop',
    if_neg hlt', hm, hhigh, hlow, hx, Bool.and_self, if_true]

/-- digits in braces are read on from the number of those before them -/
theorem readWideEscape_digits {done ds rest : List Char} {point n : Nat} {x : Char}
    (hn : ds.foldlM (fun n c => (hexDigit? c).map (16 * n + ·)) point = some n) (hx : scalar? n = some x)
    (hlong : 3 < done.length + ds.length) (hlimit : done.length + ds.length < wideEscapeLimit) :
    readWideEscape done point (ds ++ '}' :: rest) = .ok (x, rest) := by
  induction ds generalizing done point with
  | nil =>
    obtain rfl := Option.some.inj hn
    have hlt : ¬wideEscapeLimit ≤ done.length := Nat.not_le.2 hlimit
    have hthree : done.length ≠ 3 := Nat.ne_of_gt hlong
    simp only [List.nil_append, readWideEscape, if_neg hlt, if_true, hx, if_neg hthree]
  | cons c ds ih =>
    rw [List.length_cons] at hlong hlimit
    cases hd : hexDigit? c with
    | none => simp [hd] at hn
    | some d =>
      have hlt : ¬wideEscapeLimit ≤ done.length := by omega
      have hbrace : c ≠ '}' := by rintro rfl; cases hd
      have hrest : ds.foldlM (fun n c => (hexDigit? c).map (16 * n + ·)) (16 * point + d) = some n := by
        simpa [hd] using hn
      rw [List.cons_append, readWideEscape, if_neg hlt, if_neg hbrace, hd]
      refine ih hrest ?_ ?_
      · rw [List.length_cons]; omega
      · rw [List.length_cons]; omega

theorem readEscape_eq {e : Char} (h : e ≠ 'u') (rest : List Char) :
    readEscape (e :: rest) =
      ((escapeLetter? e).map (·, rest)).elim (.error (.badEscape (String.ofList ['\\', e]))) .ok := by
  unfold readEscape
  split
  · next heq => cases heq
  · next heq => exact absurd (List.cons.inj heq).1 h
  · next heq => exact absurd (List.cons.inj heq).1 h
  · next heq =>
    obtain ⟨rfl, rfl⟩ := List.cons.inj heq
    cases escapeLetter? e with
    | none => rfl
    | some x => rfl

theorem readEscape_letter {e x : Char} (h : escapeLetter? e = some x) (rest : List Char) :
    readEscape (e :: rest) = .ok (x, rest) := by
  have hu : e ≠ 'u' := by rintro rfl; cases h
  rw [readEscape_eq hu, h]
  rfl

theorem readEscape_four {cs : List Char} (hbrace : cs.head? ≠ some '{') :
    readEscape ('u' :: cs) = readFourDigits cs := by
  unfold readEscape
  split
  · next heq => cases heq
  · next heq =>
    rw [(List.cons.inj heq).2] at hbrace
    exact absurd rfl hbrace
  · next heq =>
    obtain ⟨_, rfl⟩ := List.cons.inj heq
    rfl
  · next hu heq => exact absurd (List.cons.inj heq).1.symm hu

theorem readString_escape {cs rest v r : List Char} {x : Char} (h : readEscape cs = .ok (x, rest))
    (hrest : readString rest = .ok (v, r)) : readString ('\\' :: cs) = .ok (x :: v, r) := by
  rw [readString]
  split
  · next he => rw [h] at he; cases he
  · next he =>
    rw [h] at he
    obtain ⟨rfl, rfl⟩ := Prod.mk.inj (Except.ok.inj he)
    rw [hrest]
    rfl

/-- four hexadecimal digits do not start with a brace -/
theorem head?_ne_brace {ds us : List Char} {n : Nat} (hlength : ds.length = 4) (hn : hexNumber? ds = some n) :
    (ds ++ us).head? ≠ some '{' := by
  cases ds with
  | nil => cases hlength
  | cons d ds =>
    intro hhead
    obtain rfl := Option.some.inj hhead
    have hbrace : hexDigit? '{' = none := by decide
    simp [hexNumber?, hbrace] at hn

/-- **A string is read up to its closing quote.** -/
theorem readString_body {v cs : List Char} (h : StringBody v cs) (rest : List Char) :
    readString (cs ++ '"' :: rest) = .ok (v, rest) := by
  induction h with
  | nil => rw [List.nil_append, readString]
  | @plain c v cs hquote hslash hend _ ih =>
    rw [List.cons_append, readString, if_neg (by simp [hend]), ih]
    · rfl
    · simpa using hquote
    · simpa using hslash
  | letter he _ ih => exact readString_escape (readEscape_letter he _) ih
  | digits hlength hn hx _ ih =>
    rw [List.cons_append, List.cons_append, List.append_assoc]
    refine readString_escape ((readEscape_four (head?_ne_brace hlength hn)).trans ?_) ih
    exact readFourDigits_digits hlength hn hx
  | pair hlength hn hhigh hlength' hm hlow hx _ ih =>
    simp only [List.cons_append, List.append_assoc]
    refine readString_escape ((readEscape_four (head?_ne_brace hlength hn)).trans ?_) ih
    exact readFourDigits_pair hlength hn hhigh hlength' hm hlow hx
  | @braces ds v cs n x hne hlength hn hx _ ih =>
    have hpos := List.length_pos_iff.2 hne
    simp only [List.cons_append, List.append_assoc]
    refine readString_escape (readWideEscape_digits hn hx ?_ ?_) ih
    · simp only [List.length_cons, List.length_nil]; omega
    · simp only [List.length_cons, List.length_nil, wideEscapeLimit]; omega

/-! ## Block strings -/

def tripleQuote : List Char := ['"', '"', '"']

/-- characters of a block string, and how they are written between its quotes: three quotes do not stand among them but
behind a backslash -/
inductive BlockBody : List Char → List Char → Prop where
  | nil : BlockBody [] []
  | quotes {v cs : List Char} : BlockBody v cs → BlockBody (tripleQuote ++ v) ('\\' :: (tripleQuote ++ cs))
  | plain {c : Char} {v cs : List Char} : ¬ tripleQuote <+: c :: (cs ++ tripleQuote) →
      ¬ '\\' :: tripleQuote <+: c :: (cs ++ tripleQuote) → BlockBody v cs → BlockBody (c :: v) (c :: cs)

/-- **A block string is read up to its closing quotes.** -/
theorem readBlock_body {v cs : List Char} (h : BlockBody v cs) (rest : List Char) :
    readBlock (cs ++ (tripleQuote ++ rest)) = some (v, rest) := by
  induction h with
  | nil => rfl
  | @quotes v cs _ ih =>
    rw [List.cons_append, List.append_assoc]
    show (readBlock (cs ++ (tripleQuote ++ rest))).map _ = _
    rw [ih]
    rfl
  | @plain c v cs hclose hescape _ ih =>
    have hstart : ∀ us : List Char, us.length ≤ 4 → us <+: c :: (cs ++ (tripleQuote ++ rest)) →
        us <+: c :: (cs ++ tripleQuote) := by
      intro us hlength hus
      refine List.prefix_of_prefix_length_le hus ⟨rest, by simp⟩ ?_
      simp [tripleQuote]
      omega
    rw [List.cons_append, readBlock, ih]
    · rfl
    · rintro us rfl hus
      exact hclose (hstart tripleQuote (by simp [tripleQuote]) ⟨us, by rw [hus]; rfl⟩)
    · rintro us rfl hus
      exact hescape (hstart ('\\' :: tripleQuote) (by simp [tripleQuote]) ⟨us, by rw [hus]; rfl⟩)

/-! ## Tokens -/

/-- how names, punctuators, numbers, strings and block strings are written -/
inductive Spelled : Token → List Char → Prop where
  | simple {t : Token} {cs : List Char} : Spells t cs → Spelled t cs
  | number {sign whole fraction exponent : List Char} : sign = [] ∨ sign = ['-'] → IsWhole whole →
      IsFraction fraction → IsExponent exponent →
      Spelled (numberToken sign whole fraction exponent) (sign ++ whole ++ fraction ++ exponent)
  | string {v cs : List Char} : StringBody v cs → Spelled (.string (String.ofList v)) ('"' :: (cs ++ ['"']))
  | block {v cs : List Char} : BlockBody v cs →
      Spelled (.block (String.ofList (blockValue v))) (tripleQuote ++ (cs ++ tripleQuote))

theorem isDigit_not_separator {c : Char} (h : isDigit c = true) : isSeparator c = false ∧ c ≠ '#' := by
  constructor
  · by_contra hs
    rw [Bool.not_eq_false] at hs
    simp only [isSeparator, Bool.or_eq_true, decide_eq_true_eq] at hs
    rcases hs with ((((rfl | rfl) | rfl) | rfl) | rfl) | rfl <;> exact absurd h (by decide)
  · rintro rfl
    exact absurd h (by decide)

theorem read_number {c : Char} (h : isDigit c = true ∨ c = '-') (cs : List Char) :
    read c cs = readNumber (c :: cs) := by
  have hdot : c ≠ '.' := by
    rintro rfl
    exact absurd h (by decide)
  have hquote : c ≠ '"' := by
    rintro rfl
    exact absurd h (by decide)
  unfold read
  rw [if_neg hdot, if_neg hquote, if_pos (by simpa using h)]

theorem reads_number {sign whole fraction exponent : List Char} (hsign : sign = [] ∨ sign = ['-'])
    (hwhole : IsWhole whole) (hfraction : IsFraction fraction) (hexponent : IsExponent exponent) :
    Reads (numberToken sign whole fraction exponent) (sign ++ whole ++ fraction ++ exponent) := by
  obtain ⟨d, ds, hds, hd⟩ := hwhole.starts
  have hread : ∀ rest, isApart rest = true → readNumber (sign ++ whole ++ fraction ++ exponent ++ rest) =
      .ok (numberToken sign whole fraction exponent, rest) :=
    fun _ => readNumber_append hsign hwhole hfraction hexponent
  subst hds
  rcases hsign with rfl | rfl
  · refine ⟨d, ds ++ fraction ++ exponent, rfl, (isDigit_not_separator hd).1, (isDigit_not_separator hd).2, ?_⟩
    intro rest hrest
    rw [read_number (.inl hd)]
    exact hread rest hrest
  · refine ⟨'-', d :: ds ++ fraction ++ exponent, rfl, by decide, by decide, fun rest hrest => ?_⟩
    rw [read_number (.inr rfl)]
    exact hread rest hrest

theorem isApart_not_quote {cs : List Char} (h : isApart cs = true) : cs.head? ≠ some '"' := by
  cases cs with
  | nil => simp
  | cons c cs =>
    intro hhead
    obtain rfl := Option.some.inj hhead
    simp [isApart, isSeparator] at h

theorem read_tripleQuote (cs : List Char) :
    read '"' ('"' :: '"' :: cs) = (readBlock cs).elim (.error (.openString, 0)) fun p =>
      .ok (.block (String.ofList (blockValue p.1)), p.2) := by
  rw [read, if_neg (by decide), if_pos rfl]
  cases readBlock cs with
  | none => rfl
  | some p => rfl

/-- what two quotes do not start is a string -/
theorem read_quote {cs : List Char} (h : ¬∃ us, cs = '"' :: '"' :: us) :
    read '"' cs = (readString cs).map fun p => (.string (String.ofList p.1), p.2) := by
  unfold read
  rw [if_neg (by decide), if_pos rfl]
  split
  · next us => exact absurd ⟨us, rfl⟩ h
  · rfl

theorem reads_string {v cs : List Char} (h : StringBody v cs) :
    Reads (.string (String.ofList v)) ('"' :: (cs ++ ['"'])) := by
  refine ⟨'"', cs ++ ['"'], rfl, by decide, by decide, fun rest hrest => ?_⟩
  rw [List.append_assoc, List.singleton_append]
  have hquotes : ¬∃ us, cs ++ '"' :: rest = '"' :: '"' :: us := by
    rintro ⟨us, hus⟩
    cases h with
    | nil =>
      refine isApart_not_quote hrest ?_
      rw [(List.cons.inj hus).2, List.head?_cons]
    | plain hquote _ _ _ => exact hquote (List.cons.inj hus).1
    | letter _ _ => exact absurd (List.cons.inj hus).1 (by decide)
    | digits _ _ _ _ => exact absurd (List.cons.inj hus).1 (by decide)
    | pair _ _ _ _ _ _ _ _ => exact absurd (List.cons.inj hus).1 (by decide)
    | braces _ _ _ _ _ => exact absurd (List.cons.inj hus).1 (by decide)
  rw [read_quote hquotes, readString_body h]
  rfl

theorem reads_block {v cs : List Char} (h : BlockBody v cs) :
    Reads (.block (String.ofList (blockValue v))) (tripleQuote ++ (cs ++ tripleQuote)) := by
  refine ⟨'"', '"' :: '"' :: (cs ++ tripleQuote), rfl, by decide, by decide, fun rest _ => ?_⟩
  rw [List.cons_append, List.cons_append, List.append_assoc, read_tripleQuote, readBlock_body h]
  rfl

/-- **Numbers and strings are read as their tokens**, and so are names and punctuators. -/
theorem Spelled.reads {t : Token} {cs : List Char} (h : Spelled t cs) : Reads t cs := by
  cases h with
  | simple h => exact h.reads
  | number hsign hwhole hfraction hexponent => exact reads_number hsign hwhole hfraction hexponent
  | string h => exact reads_string h
  | block h => exact reads_block h

/-! ## Nothing else is read -/

theorem exists_of_readDigits {cs ds rest : List Char} (h : readDigits cs = .ok (ds, rest)) :
    cs = ds ++ rest ∧ IsDigits ds := by
  unfold readDigits at h
  split_ifs at h with hdigit
  obtain ⟨rfl, rfl⟩ := Prod.mk.inj (Except.ok.inj h)
  refine ⟨List.takeWhile_append_dropWhile.symm, ?_, List.all_eq_true.1 List.all_takeWhile⟩
  cases cs with
  | nil => cases hdigit
  | cons c cs =>
    rw [List.head?_cons, Option.any_some] at hdigit
    simp [hdigit]

theorem exists_of_readWhole {cs ds rest : List Char} (h : readWhole cs = .ok (ds, rest)) :
    cs = ds ++ rest ∧ IsWhole ds := by
  unfold readWhole at h
  split at h
  · split_ifs at h
    obtain ⟨rfl, rfl⟩ := Prod.mk.inj (Except.ok.inj h)
    exact ⟨rfl, .inl rfl⟩
  · next hzero =>
    obtain ⟨rfl, hne, hds⟩ := exists_of_readDigits h
    refine ⟨rfl, ?_⟩
    by_cases hhead : ds.head? = some '0'
    · cases ds with
      | nil => exact absurd rfl hne
      | cons d ds =>
        obtain rfl := Option.some.inj hhead
        cases ds with
        | nil => exact .inl rfl
        | cons d ds => exact absurd rfl (hzero d (ds ++ rest))
    · exact .inr ⟨⟨hne, hds⟩, hhead⟩

theorem exists_of_readFraction {cs ds rest : List Char} (h : readFraction cs = .ok (ds, rest)) :
    cs = ds ++ rest ∧ IsFraction ds := by
  unfold readFraction at h
  split at h
  · next us =>
    obtain ⟨⟨ds', us'⟩, hread, ⟨⟩⟩ := Outcome.bind_eq_ok.1 h
    obtain ⟨hus, hds⟩ := exists_of_readDigits hread
    exact ⟨by rw [hus]; rfl, .inr ⟨_, hds, rfl⟩⟩
  · obtain ⟨rfl, rfl⟩ := Prod.mk.inj (Except.ok.inj h)
    exact ⟨rfl, .inl rfl⟩

theorem exists_of_readExponent {cs ds rest : List Char} (h : readExponent cs = .ok (ds, rest)) :
    cs = ds ++ rest ∧ IsExponent ds := by
  unfold readExponent at h
  split at h
  · next e us =>
    split_ifs at h with he
    · set sign := (us.take 1).filter fun c => c = '+' || c = '-' with hsign
      have hsigns : (sign = [] ∨ sign = ['+'] ∨ sign = ['-']) ∧ us = sign ++ us.drop sign.length := by
        cases us with
        | nil => exact ⟨.inl rfl, rfl⟩
        | cons c us =>
          by_cases hplus : c = '+'
          · subst hplus
            exact ⟨.inr (.inl rfl), rfl⟩
          · by_cases hminus : c = '-'
            · subst hminus
              exact ⟨.inr (.inr rfl), rfl⟩
            · have hnil : sign = [] := by simp [hsign, hplus, hminus]
              rw [hnil]
              exact ⟨.inl rfl, rfl⟩
      obtain ⟨⟨ds', us'⟩, hread, ⟨⟩⟩ := Outcome.bind_eq_ok.1 h
      obtain ⟨hus, hds⟩ := exists_of_readDigits hread
      refine ⟨?_, .inr ⟨e, sign, ds', he, hsigns.1, hds, rfl⟩⟩
      rw [List.cons_append, List.cons_append, List.append_assoc, ← hus, ← hsigns.2]
    · obtain ⟨rfl, rfl⟩ := Prod.mk.inj (Except.ok.inj h)
      exact ⟨rfl, .inl rfl⟩
  · obtain ⟨rfl, rfl⟩ := Prod.mk.inj (Except.ok.inj h)
    exact ⟨rfl, .inl rfl⟩

theorem spelled_of_readNumber {cs rest : List Char} {t : Token} (h : readNumber cs = .ok (t, rest)) :
    ∃ us, cs = us ++ rest ∧ Spelled t us := by
  unfold readNumber at h
  set sign := (cs.take 1).filter (· = '-') with hsign
  have hsigns : (sign = [] ∨ sign = ['-']) ∧ cs = sign ++ cs.drop sign.length := by
    cases cs with
    | nil => exact ⟨.inl rfl, rfl⟩
    | cons c cs =>
      by_cases hminus : c = '-'
      · subst hminus
        exact ⟨.inr rfl, rfl⟩
      · have hnil : sign = [] := by simp [hsign, hminus]
        rw [hnil]
        exact ⟨.inl rfl, rfl⟩
  obtain ⟨⟨whole, us⟩, hw, h⟩ := Outcome.bind_eq_ok.1 h
  obtain ⟨⟨fraction, vs⟩, hf, h⟩ := Outcome.bind_eq_ok.1 h
  obtain ⟨⟨exponent, ws⟩, he, h⟩ := Outcome.bind_eq_ok.1 h
  obtain ⟨hwhole, hwhole'⟩ := exists_of_readWhole hw
  obtain ⟨hfraction, hfraction'⟩ := exists_of_readFraction hf
  obtain ⟨hexponent, hexponent'⟩ := exists_of_readExponent he
  have htoken : t = numberToken sign whole fraction exponent ∧ rest = ws := by
    dsimp only at h
    split at h
    · cases h
    · obtain ⟨rfl, rfl⟩ := Prod.mk.inj (Except.ok.inj h)
      exact ⟨rfl, rfl⟩
  obtain ⟨rfl, rfl⟩ := htoken
  refine ⟨_, ?_, .number hsigns.1 hwhole' hfraction' hexponent'⟩
  rw [List.append_assoc, ← hexponent, List.append_assoc, ← hfraction, List.append_assoc, ← hwhole, ← hsigns.2]

theorem exists_of_readWideEscape {done cs rest : List Char} {point : Nat} {x : Char}
    (h : readWideEscape done point cs = .ok (x, rest)) :
    ∃ ds n, cs = ds ++ '}' :: rest ∧ ds.foldlM (fun n c => (hexDigit? c).map (16 * n + ·)) point = some n ∧
      scalar? n = some x ∧ done.length + ds.length ≠ 3 ∧ done.length + ds.length < wideEscapeLimit := by
  fun_induction readWideEscape done point cs with
  | case1 => cases h
  | case2 => cases h
  | case3 => cases h
  | case4 done point cs hlimit y hy hthree =>
    obtain ⟨rfl, rfl⟩ := Prod.mk.inj (Except.ok.inj h)
    exact ⟨[], point, rfl, rfl, hy, hthree, Nat.not_le.1 hlimit⟩
  | case5 => cases h
  | case6 done point c cs hlimit hbrace d hd ih =>
    obtain ⟨ds, n, rfl, hn, hx, hthree, hlt⟩ := ih h
    rw [List.length_cons] at hthree hlt
    refine ⟨c :: ds, n, rfl, ?_, hx, ?_, ?_⟩
    · simpa [hd] using hn
    · rw [List.length_cons]; omega
    · rw [List.length_cons]; omega
  | case7 => cases h

/-- four digits at the start of a text, if there are as many characters -/
theorem exists_of_fourDigits {cs : List Char} {n : Nat}
    (h : (if cs.length < 4 then none else hexNumber? (cs.take 4)) = some n) :
    ∃ ds, ds.length = 4 ∧ hexNumber? ds = some n ∧ cs = ds ++ cs.drop 4 := by
  split_ifs at h with hlength
  refine ⟨cs.take 4, ?_, h, (List.take_append_drop 4 cs).symm⟩
  rw [List.length_take]
  omega

/-- an escape with four digits before a string body makes one of its own -/
theorem StringBody.ofFourDigits {us rest : List Char} {x : Char} (h : readFourDigits us = .ok (x, rest)) :
    ∃ ds, us = ds ++ rest ∧ ∀ v body, StringBody v body → StringBody (x :: v) ('\\' :: 'u' :: (ds ++ body)) := by
  unfold readFourDigits at h
  split at h
  · cases h
  · next n hn =>
    obtain ⟨ds, hlength, hds, hus⟩ := exists_of_fourDigits hn
    split at h
    · next y hy =>
      obtain ⟨rfl, rfl⟩ := Prod.mk.inj (Except.ok.inj h)
      exact ⟨ds, hus, fun v body hbody => .digits hlength hds hy hbody⟩
    · -- the digits are no character: with the digits after them they may be a pair
      split at h
      · next ws hws =>
        split at h
        · next m hm =>
          obtain ⟨es, hlength', hes, hvs⟩ := exists_of_fourDigits hm
          split_ifs at h with hpair
          rw [Bool.and_eq_true] at hpair
          split at h
          · next y hy =>
            obtain ⟨rfl, rfl⟩ := Prod.mk.inj (Except.ok.inj h)
            refine ⟨ds ++ '\\' :: 'u' :: es, ?_, fun v body hbody => ?_⟩
            · rw [hus, hws]
              nth_rewrite 1 [hvs]
              simp
            · simpa using StringBody.pair hlength hds hpair.1 hlength' hes hpair.2 hy hbody
          · cases h
        · cases h
      · cases h

/-- an escape before a string body makes one of its own -/
theorem StringBody.escape {cs rest : List Char} {x : Char} (h : readEscape cs = .ok (x, rest)) :
    ∃ us, cs = us ++ rest ∧ ∀ v body, StringBody v body → StringBody (x :: v) ('\\' :: (us ++ body)) := by
  unfold readEscape at h
  split at h
  · cases h
  · next us =>
    obtain ⟨ds, n, rfl, hn, hx, hthree, hlt⟩ := exists_of_readWideEscape h
    refine ⟨'u' :: '{' :: (ds ++ ['}']), by simp, fun v body hbody => ?_⟩
    have hne : ds ≠ [] := by
      rintro rfl
      exact hthree rfl
    have hlength : ds.length ≤ 8 := by
      simp only [List.length_cons, List.length_nil, wideEscapeLimit] at hlt
      omega
    simpa using StringBody.braces hne hlength hn hx hbody
  · next us _ =>
    obtain ⟨ds, rfl, hbody⟩ := StringBody.ofFourDigits h
    exact ⟨'u' :: ds, rfl, hbody⟩
  · next c us _ _ =>
    split at h
    · next y hy =>
      obtain ⟨rfl, rfl⟩ := Prod.mk.inj (Except.ok.inj h)
      exact ⟨[c], rfl, fun v body hbody => .letter hy hbody⟩
    · cases h

theorem exists_of_readString {cs v rest : List Char} (h : readString cs = .ok (v, rest)) :
    ∃ body, cs = body ++ '"' :: rest ∧ StringBody v body := by
  fun_induction readString cs generalizing v with
  | case1 => cases h
  | case2 us =>
    obtain ⟨rfl, rfl⟩ := Prod.mk.inj (Except.ok.inj h)
    exact ⟨[], rfl, .nil⟩
  | case3 => cases h
  | case4 us x us' he hlt ih =>
    obtain ⟨p, hread, ⟨⟩⟩ := Outcome.map_eq_ok.1 h
    obtain ⟨body, hus', hbody⟩ := ih hread
    obtain ⟨ws, rfl, hescape⟩ := StringBody.escape he
    exact ⟨'\\' :: (ws ++ body), by rw [hus']; simp, hescape _ _ hbody⟩
  | case5 => cases h
  | case6 c us hquote hslash hend ih =>
    obtain ⟨p, hread, ⟨⟩⟩ := Outcome.map_eq_ok.1 h
    obtain ⟨body, rfl, hbody⟩ := ih hread
    exact ⟨c :: body, rfl, .plain hquote hslash (by simpa using hend) hbody⟩

theorem exists_of_readBlock {cs v rest : List Char} (h : readBlock cs = some (v, rest)) :
    ∃ body, cs = body ++ (tripleQuote ++ rest) ∧ BlockBody v body := by
  fun_induction readBlock cs generalizing v with
  | case1 => cases h
  | case2 us =>
    obtain ⟨rfl, rfl⟩ := Prod.mk.inj (Option.some.inj h)
    exact ⟨[], rfl, .nil⟩
  | case3 us ih =>
    obtain ⟨p, hread, ⟨⟩⟩ := Option.map_eq_some_iff.1 h
    obtain ⟨body, rfl, hbody⟩ := ih hread
    exact ⟨'\\' :: (tripleQuote ++ body), by simp [tripleQuote], .quotes hbody⟩
  | case4 c us hclose hescape ih =>
    obtain ⟨p, hread, ⟨⟩⟩ := Option.map_eq_some_iff.1 h
    obtain ⟨body, rfl, hbody⟩ := ih hread
    -- what three quotes do not start with what follows, they do not start without it
    have hstart : c :: (body ++ tripleQuote) <+: c :: (body ++ (tripleQuote ++ p.2)) := ⟨p.2, by simp⟩
    refine ⟨c :: body, rfl, .plain (fun hus => ?_) (fun hus => ?_) hbody⟩
    · obtain ⟨ws, hws⟩ := hus.trans hstart
      obtain ⟨rfl, hrest⟩ := List.cons.inj hws
      exact hclose ws rfl hrest.symm
    · obtain ⟨ws, hws⟩ := hus.trans hstart
      obtain ⟨rfl, hrest⟩ := List.cons.inj hws
      exact hescape ws rfl hrest.symm

theorem punct?_eq_some {c : Char} {p : Punct} (h : punct? c = some p) : p.text.toList = [c] := by
  unfold punct? at h
  split at h <;> first | cases h; rfl | cases h

/-- **The tokens of a text are spelled as the grammar says**: whatever the lexer takes is a name, a punctuator, a number
or a string. -/
theorem spelled_of_read {c : Char} {cs rest : List Char} {t : Token} (h : read c cs = .ok (t, rest)) :
    ∃ us, c :: cs = us ++ rest ∧ Spelled t us := by
  unfold read at h
  split_ifs at h with hdot hquote hnumber hname
  · subst hdot
    unfold readDots at h
    split at h
    · obtain ⟨rfl, rfl⟩ := Prod.mk.inj (Except.ok.inj h)
      exact ⟨['.', '.', '.'], rfl, .simple (.punct .spread)⟩
    · cases h
    · split_ifs at h
    · cases h
  · subst hquote
    split at h
    · split at h
      · cases h
      · next hread =>
        obtain ⟨rfl, rfl⟩ := Prod.mk.inj (Except.ok.inj h)
        obtain ⟨body, rfl, hbody⟩ := exists_of_readBlock hread
        exact ⟨_, by simp [tripleQuote], .block hbody⟩
    · obtain ⟨p, hread, ⟨⟩⟩ := Outcome.map_eq_ok.1 h
      obtain ⟨body, rfl, hbody⟩ := exists_of_readString hread
      exact ⟨_, by simp, .string hbody⟩
  · exact spelled_of_readNumber h
  · obtain ⟨rfl, rfl⟩ := Prod.mk.inj (Except.ok.inj h)
    have hn : isName (String.ofList (c :: cs.takeWhile isNameCharacter)) = true := by
      rw [isName_ofList]
      simp [isNameText, hname]
    refine ⟨c :: cs.takeWhile isNameCharacter, by simp, .simple ?_⟩
    simpa using Spells.name hn
  · split at h
    · next p hp =>
      obtain ⟨rfl, rfl⟩ := Prod.mk.inj (Except.ok.inj h)
      refine ⟨[c], rfl, .simple ?_⟩
      rw [← punct?_eq_some hp]
      exact .punct p
    · cases h

end SchemaTypings.Sdl
