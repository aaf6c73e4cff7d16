/-
Reading tokens from a text. Blanks, commas, line ends, byte order marks and comments separate tokens and are skipped
(`skip`); `read` takes the token at the start of a text, or says why there is none and where. A place is given by the number
of characters from it to the end of the text, so that it does not change with what stands before it.

`lex` is the list of all tokens with their places; it ends because `read` leaves a shorter text (`length_read`).
-/
import SchemaTypings.Outcome
import SchemaTypings.Sdl.Token
import SchemaTypings.Text.Line

namespace SchemaTypings.Sdl

open SchemaTypings.Text

def isNameStart (c : Char) : Bool := ('a' ≤ c && c ≤ 'z') || ('A' ≤ c && c ≤ 'Z') || c = '_'

def isNameCharacter (c : Char) : Bool := isNameStart c || isDigit c

/-- characters between tokens, comments apart -/
def isSeparator (c : Char) : Bool :=
  c = ' ' || c = '\t' || c = ',' || c = '\n' || c = '\r' || c = '\uFEFF'

/-- the text from its first token on; `comment` says that it starts within a comment -/
def skip (comment : Bool) : List Char → List Char
  | [] => []
  | c :: cs =>
    if comment then skip (!Line.isEnd c) cs
    else if c = '#' then skip true cs
    else if isSeparator c then skip false cs
    else c :: cs

theorem length_skip (comment : Bool) (cs : List Char) : (skip comment cs).length ≤ cs.length := by
  fun_induction skip comment cs <;> simp <;> omega

abbrev Fallen := Defect × Nat

/-- the punctuator of a single character -/
def punct? : Char → Option Punct
  | '!' => some .bang
  | '$' => some .dollar
  | '&' => some .ampersand
  | '(' => some .parenOpen
  | ')' => some .parenClose
  | ':' => some .colon
  | '=' => some .equal
  | '@' => some .atSign
  | '[' => some .bracketOpen
  | ']' => some .bracketClose
  | '{' => some .braceOpen
  | '}' => some .braceClose
  | '|' => some .pipe
  | _ => none

/-- what starts with a dot; `cs` follows it -/
def readDots (cs : List Char) : Except Fallen (Token × List Char) :=
  match cs with
  | '.' :: '.' :: rest => .ok (.punct .spread, rest)
  | '.' :: _ => .error (.twoDots, cs.length + 1)
  | c :: _ =>
    if isDigit c then .error (.digitBeforeDot (String.ofList (cs.takeWhile isDigit)), cs.length + 1)
    else .error (.strayCharacter '.', cs.length + 1)
  | [] => .error (.strayCharacter '.', 1)

/-- one or more digits -/
def readDigits (cs : List Char) : Except Fallen (List Char × List Char) :=
  if cs.head?.any isDigit then .ok (cs.takeWhile isDigit, cs.dropWhile isDigit)
  else .error (.digitExpected cs.head?, cs.length)

/-- whole part of a number: no digit follows a leading zero -/
def readWhole (cs : List Char) : Except Fallen (List Char × List Char) :=
  match cs with
  | '0' :: c :: rest =>
    if isDigit c then .error (.digitAfterZero c, rest.length + 1) else .ok (['0'], c :: rest)
  | cs => readDigits cs

/-- fraction of a number with its dot, if there is one -/
def readFraction (cs : List Char) : Except Fallen (List Char × List Char) :=
  match cs with
  | '.' :: rest => do
    let (ds, rest) ← readDigits rest
    return ('.' :: ds, rest)
  | cs => .ok ([], cs)

/-- exponent of a number with its letter and sign, if there is one -/
def readExponent (cs : List Char) : Except Fallen (List Char × List Char) :=
  match cs with
  | e :: rest =>
    if e = 'e' ∨ e = 'E' then do
      let sign := (rest.take 1).filter fun c => c = '+' || c = '-'
      let (ds, rest) ← readDigits (rest.drop sign.length)
      return (e :: sign ++ ds, rest)
    else .ok ([], e :: rest)
  | [] => .ok ([], [])

/-- a number, which no dot or name follows -/
def readNumber (cs : List Char) : Except Fallen (Token × List Char) := do
  let sign := (cs.take 1).filter (· = '-')
  let (whole, rest) ← readWhole (cs.drop sign.length)
  let (fraction, rest) ← readFraction rest
  let (exponent, rest) ← readExponent rest
  if rest.head?.any fun c => c = '.' || isNameStart c then .error (.digitExpected rest.head?, rest.length)
  else
    let text := String.ofList (sign ++ whole ++ fraction ++ exponent)
    return (if fraction = [] ∧ exponent = [] then .int text else .float text, rest)

/-- the character of an escape of one letter -/
def escapeLetter? : Char → Option Char
  | '\x22' => some '\x22'
  | '\\' => some '\\'
  | '/' => some '/'
  | 'b' => some '\x08'
  | 'f' => some '\x0c'
  | 'n' => some '\n'
  | 'r' => some '\r'
  | 't' => some '\t'
  | _ => none

/-- longest escape in braces, from the backslash on -/
def wideEscapeLimit : Nat := 12

/-- a code point in braces; `done` are the characters from the backslash on, last first, and `point` their digits -/
def readWideEscape (done : List Char) (point : Nat) : List Char → Except Defect (Char × List Char)
  | [] => .error (.badUnicodeEscape (String.ofList done.reverse))
  | c :: cs =>
    if wideEscapeLimit ≤ done.length then .error (.badUnicodeEscape (String.ofList done.reverse))
    else if c = '}' then
      match scalar? point with
      | some x =>
        if done.length = 3 then .error (.badUnicodeEscape (String.ofList (c :: done).reverse)) else .ok (x, cs)
      | none => .error (.badUnicodeEscape (String.ofList (c :: done).reverse))
    else match hexDigit? c with
      | some d => readWideEscape (c :: done) (16 * point + d) cs
      | none => .error (.badUnicodeEscape (String.ofList (c :: done).reverse))

/-- a code point of four digits, or two that are a pair of surrogates; `cs` follows the letter -/
def readFourDigits (cs : List Char) : Except Defect (Char × List Char) :=
  let fault := Except.error (.badUnicodeEscape (String.ofList ('\\' :: 'u' :: cs.take 4)))
  match if cs.length < 4 then none else hexNumber? (cs.take 4) with
  | none => fault
  | some n =>
    match scalar? n with
    | some c => .ok (c, cs.drop 4)
    | none =>
      match cs.drop 4 with
      | '\\' :: 'u' :: rest =>
        match if rest.length < 4 then none else hexNumber? (rest.take 4) with
        | some m =>
          if isHighSurrogate n && isLowSurrogate m then
            match scalar? (joinSurrogates n m) with
            | some c => .ok (c, rest.drop 4)
            | none => fault
          else fault
        | none => fault
      | _ => fault

/-- the character of an escape and the text after it; `cs` follows the backslash -/
def readEscape (cs : List Char) : Except Defect (Char × List Char) :=
  match cs with
  | [] => .error (.badEscape "\\")
  | 'u' :: '{' :: rest => readWideEscape ['{', 'u', '\\'] 0 rest
  | 'u' :: rest => readFourDigits rest
  | c :: rest =>
    match escapeLetter? c with
    | some x => .ok (x, rest)
    | none => .error (.badEscape (String.ofList ['\\', c]))

theorem length_readWideEscape {done cs rest : List Char} {point : Nat} {x : Char}
    (h : readWideEscape done point cs = .ok (x, rest)) : rest.length ≤ cs.length := by
  fun_induction readWideEscape done point cs with
  | case1 => cases h
  | case2 => cases h
  | case3 => cases h
  | case4 done point cs =>
    obtain ⟨-, rfl⟩ := Prod.mk.inj (Except.ok.inj h)
    exact Nat.le_succ _
  | case5 => cases h
  | case6 done point c cs hlimit hbrace d hd ih => exact Nat.le_succ_of_le (ih h)
  | case7 => cases h

theorem length_readFourDigits {cs rest : List Char} {x : Char} (h : readFourDigits cs = .ok (x, rest)) :
    rest.length ≤ cs.length := by
  unfold readFourDigits at h
  split at h
  · simp at h
  · split at h
    · simp only [Except.ok.injEq, Prod.mk.injEq] at h
      simp [← h.2]
    · split at h
      · next hd =>
        have hl := congrArg List.length hd
        simp only [List.length_drop, List.length_cons] at hl
        split at h
        · split at h
          · split at h
            · simp only [Except.ok.injEq, Prod.mk.injEq] at h
              simp only [← h.2, List.length_drop]
              omega
            · simp at h
          · simp at h
        · simp at h
      · simp at h

theorem length_readEscape {cs rest : List Char} {x : Char} (h : readEscape cs = .ok (x, rest)) :
    rest.length ≤ cs.length := by
  unfold readEscape at h
  split at h
  · simp at h
  · have := length_readWideEscape h
    simp only [List.length_cons]
    omega
  · have := length_readFourDigits h
    simp only [List.length_cons]
    omega
  · split at h
    · simp only [Except.ok.injEq, Prod.mk.injEq] at h
      simp [← h.2]
    · simp at h

/-- value of a string up to its closing quote, which is taken too; a string does not go over the end of a line -/
def readString (cs : List Char) : Except Fallen (List Char × List Char) :=
  match cs with
  | [] => .error (.openString, 0)
  | '\x22' :: rest => .ok ([], rest)
  | '\\' :: rest =>
    match h : readEscape rest with
    | .error d => .error (d, rest.length + 1)
    | .ok (x, rest') =>
      have : rest'.length < rest.length + 1 := Nat.lt_succ_of_le (length_readEscape h)
      (readString rest').map fun (v, r) => (x :: v, r)
  | c :: rest =>
    if Line.isEnd c then .error (.openString, rest.length + 1)
    else (readString rest).map fun (v, r) => (c :: v, r)
termination_by cs.length

/-- characters of a block string up to the three quotes that close it, which are taken too -/
def readBlock : List Char → Option (List Char × List Char)
  | [] => none
  | '\x22' :: '\x22' :: '\x22' :: rest => some ([], rest)
  | '\\' :: '\x22' :: '\x22' :: '\x22' :: rest =>
    (readBlock rest).map fun (v, r) => ('\x22' :: '\x22' :: '\x22' :: v, r)
  | c :: rest => (readBlock rest).map fun (v, r) => (c :: v, r)

/-- blanks within a line -/
def isIndent (c : Char) : Bool := c = ' ' || c = '\t'

/-- width of the indent that all lines but the first share, lines of blanks apart -/
def commonIndent (lines : List (List Char)) : Nat :=
  let widths := ((lines.drop 1).filter fun l => !l.all isIndent).map fun l => (l.takeWhile isIndent).length
  widths.min?.getD 0

/-- value of a block string: its lines without common indent and without lines of blanks at start and end -/
def blockValue (raw : List Char) : List Char :=
  let lines := Line.split raw
  let blank := fun l : List Char => l.all isIndent
  let kept := lines.take 1 ++ (lines.drop 1).map (·.drop (commonIndent lines))
  ['\n'].intercalate (((kept.dropWhile blank).reverse.dropWhile blank).reverse)

/-- the token that starts with `c`, and the text after it -/
def read (c : Char) (cs : List Char) : Except Fallen (Token × List Char) :=
  if c = '.' then readDots cs
  else if c = '\x22' then
    match cs with
    | '\x22' :: '\x22' :: rest =>
      match readBlock rest with
      | none => .error (.openString, 0)
      | some (raw, rest) => .ok (.block (String.ofList (blockValue raw)), rest)
    | cs => (readString cs).map fun (v, r) => (.string (String.ofList v), r)
  else if isDigit c || c = '-' then readNumber (c :: cs)
  else if isNameStart c then
    .ok (.name (String.ofList (c :: cs.takeWhile isNameCharacter)), cs.dropWhile isNameCharacter)
  else match punct? c with
    | some p => .ok (.punct p, cs)
    | none => .error (.strayCharacter c, cs.length + 1)

theorem length_readDigits {cs d r : List Char} (h : readDigits cs = .ok (d, r)) :
    r.length + 1 ≤ cs.length := by
  unfold readDigits at h
  split at h
  · next hd =>
    cases cs with
    | nil => simp at hd
    | cons c cs =>
      simp only [List.head?_cons, Option.any_some] at hd
      simp only [List.dropWhile_cons, hd, if_true, Except.ok.injEq, Prod.mk.injEq] at h
      have := (List.dropWhile_sublist isDigit (l := cs)).length_le
      simp only [← h.2, List.length_cons]
      omega
  · simp at h

theorem length_readWhole {cs d r : List Char} (h : readWhole cs = .ok (d, r)) :
    r.length + 1 ≤ cs.length := by
  unfold readWhole at h
  split at h
  · split at h
    · simp at h
    · simp only [Except.ok.injEq, Prod.mk.injEq] at h
      simp [← h.2]
  · exact length_readDigits h

theorem length_readFraction {cs d r : List Char} (h : readFraction cs = .ok (d, r)) :
    r.length ≤ cs.length := by
  unfold readFraction at h
  split at h
  · next r =>
    obtain ⟨p, hd, ⟨⟩⟩ := Outcome.bind_eq_ok.1 h
    have := length_readDigits hd
    rw [List.length_cons]
    omega
  · simp only [Except.ok.injEq, Prod.mk.injEq] at h
    simp [← h.2]

theorem length_readExponent {cs d r : List Char} (h : readExponent cs = .ok (d, r)) :
    r.length ≤ cs.length := by
  unfold readExponent at h
  split at h
  · next e r =>
    split at h
    · obtain ⟨p, hd, ⟨⟩⟩ := Outcome.bind_eq_ok.1 h
      have := length_readDigits hd
      rw [List.length_drop] at this
      rw [List.length_cons]
      omega
    · simp only [Except.ok.injEq, Prod.mk.injEq] at h
      simp [← h.2]
  · simp only [Except.ok.injEq, Prod.mk.injEq] at h
    simp [← h.2]

theorem length_readNumber {cs rest : List Char} {t : Token} (h : readNumber cs = .ok (t, rest)) :
    rest.length + 1 ≤ cs.length := by
  unfold readNumber at h
  obtain ⟨⟨whole, us⟩, hw, h⟩ := Outcome.bind_eq_ok.1 h
  obtain ⟨⟨fraction, vs⟩, hf, h⟩ := Outcome.bind_eq_ok.1 h
  obtain ⟨⟨exponent, ws⟩, he, h⟩ := Outcome.bind_eq_ok.1 h
  have h₁ := length_readWhole hw
  have h₂ := length_readFraction hf
  have h₃ := length_readExponent he
  rw [List.length_drop] at h₁
  dsimp only at h₂ h₃ h
  split at h
  · cases h
  · cases h
    omega

theorem length_readString {cs v rest : List Char} (h : readString cs = .ok (v, rest)) :
    rest.length ≤ cs.length := by
  fun_induction readString cs generalizing v with
  | case1 => simp at h
  | case2 r =>
    simp only [Except.ok.injEq, Prod.mk.injEq] at h
    simp [← h.2]
  | case3 => simp at h
  | case4 r x r' he hlt ih =>
    obtain ⟨p, hr, ⟨⟩⟩ := Outcome.map_eq_ok.1 h
    have := ih hr
    rw [List.length_cons]
    omega
  | case5 => simp at h
  | case6 c r _ _ _ ih =>
    obtain ⟨p, hr, ⟨⟩⟩ := Outcome.map_eq_ok.1 h
    have := ih hr
    rw [List.length_cons]
    omega

theorem length_readBlock {cs v rest : List Char} (h : readBlock cs = some (v, rest)) :
    rest.length ≤ cs.length := by
  fun_induction readBlock cs generalizing v with
  | case1 => simp at h
  | case2 r =>
    simp only [Option.some.injEq, Prod.mk.injEq] at h
    simp only [← h.2, List.length_cons]
    omega
  | case3 r ih =>
    obtain ⟨p, hr, ⟨⟩⟩ := Option.map_eq_some_iff.1 h
    have := ih hr
    simp only [List.length_cons]
    omega
  | case4 c r _ _ ih =>
    obtain ⟨p, hr, ⟨⟩⟩ := Option.map_eq_some_iff.1 h
    have := ih hr
    simp only [List.length_cons]
    omega

/-- a token takes at least the character it starts with -/
theorem length_read {c : Char} {cs rest : List Char} {t : Token} (h : read c cs = .ok (t, rest)) :
    rest.length ≤ cs.length := by
  unfold read at h
  split at h
  · unfold readDots at h
    split at h
    · simp only [Except.ok.injEq, Prod.mk.injEq] at h
      simp only [← h.2, List.length_cons]
      omega
    · simp at h
    · split at h <;> simp at h
    · simp at h
  · split at h
    · split at h
      · split at h
        · simp at h
        · next hb =>
          simp only [Except.ok.injEq, Prod.mk.injEq] at h
          have := length_readBlock hb
          simp only [← h.2, List.length_cons]
          omega
      · obtain ⟨p, hr, ⟨⟩⟩ := Outcome.map_eq_ok.1 h
        exact length_readString hr
    · split at h
      · have := length_readNumber h
        simpa using this
      · split at h
        · simp only [Except.ok.injEq, Prod.mk.injEq] at h
          rw [← h.2]
          exact (List.dropWhile_sublist _).length_le
        · split at h
          · simp only [Except.ok.injEq, Prod.mk.injEq] at h
            simp [← h.2]
          · simp at h

/-- a token and the number of characters from its place to the end of the text -/
structure Lexeme where
  token : Token
  left : Nat
  deriving DecidableEq, Repr

/-- the tokens of a text with their places, up to its end or to the first defect -/
def lex (cs : List Char) : List Lexeme :=
  match hs : skip false cs with
  | [] => []
  | c :: rest =>
    match hr : read c rest with
    | .error (d, left) => [⟨.broken d, left⟩]
    | .ok (t, rest') =>
      have : rest'.length < cs.length := by
        have h₁ := length_read hr
        have h₂ := length_skip false cs
        rw [hs, List.length_cons] at h₂
        omega
      ⟨t, rest.length + 1⟩ :: lex rest'
termination_by cs.length

def tokens (cs : List Char) : List Token := (lex cs).map Lexeme.token

end SchemaTypings.Sdl
