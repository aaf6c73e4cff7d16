/-
Reading quoted scalars. In single quotes a quote is written twice; in double quotes a backslash starts an escape. Lines are
folded: blanks around a line end are dropped, a single line end becomes a blank.

An escape may write half of a pair of surrogates, which is a piece of its own even next to the other half.
-/
import SchemaTypings.Yaml.Character
import SchemaTypings.Yaml.Fault

namespace SchemaTypings.Yaml

open SchemaTypings.Text

/-- the character that a letter after a backslash stands for -/
def escapeLetter? : Char → Option Char
  | '0' => some '\x00'
  | 'a' => some '\x07'
  | 'b' => some '\x08'
  | 't' => some '\t'
  | '\t' => some '\t'
  | 'n' => some '\n'
  | 'v' => some '\x0b'
  | 'f' => some '\x0c'
  | 'r' => some '\r'
  | 'e' => some '\x1b'
  | ' ' => some ' '
  | '\x22' => some '\x22'
  | '\\' => some '\\'
  | '/' => some '/'
  | 'N' => some '\u0085'
  | '_' => some '\u00A0'
  | 'L' => some '\u2028'
  | 'P' => some '\u2029'
  | _ => none

/-- number of hexadecimal digits after a letter -/
def escapeWidth? : Char → Option Nat
  | 'x' => some 2
  | 'u' => some 4
  | 'U' => some 8
  | _ => none

/-- the piece of a code point; there is none above the last code point -/
def ofCodePoint (n : Nat) : Except Fault Piece :=
  if n < 0x110000 then .ok (.ofCode n)
  else if n < 0x80000000 then .error .illFormed
  else .error (.breakdown .hugeCodePoint)

/-- the piece of an escape that is no line end, and the text after it -/
def readEscape (c : Char) (rest : List Char) : Except Fault (Piece × List Char) :=
  match escapeLetter? c with
  | some x => .ok (.character x, rest)
  | none =>
    match escapeWidth? c with
    | none => .error .illFormed
    | some w =>
      if rest.length < w then .error .illFormed
      else
        match hexNumber? (rest.take w) with
        | none => .error .illFormed
        | some n => (ofCodePoint n).map (·, rest.drop w)

theorem length_readEscape {c : Char} {rest r : List Char} {x : Piece} (h : readEscape c rest = .ok (x, r)) :
    r.length ≤ rest.length := by
  unfold readEscape at h
  split at h
  · simp only [Except.ok.injEq, Prod.mk.injEq] at h
    simp [← h.2]
  · split at h
    · simp at h
    · split at h
      · simp at h
      · split at h
        · simp at h
        · next n _ =>
          obtain ⟨x, hn, ⟨⟩⟩ := Outcome.map_eq_ok.1 h
          simp

/-- line ends at the start of a line of a quoted scalar, blanks between them left out; a mark of a document is refused -/
def readBreaks? (cs : List Char) : Option (List Char × List Char) :=
  if atDocumentMark cs then none
  else
    match h : cs.dropWhile isBlank with
    | [] => some ([], [])
    | c :: rest =>
      if isBreak c then
        have : rest.length < cs.length := by
          have hl := (List.dropWhile_sublist isBlank (l := cs)).length_le
          rw [h, List.length_cons] at hl
          exact hl
        (readBreaks? rest).map fun (bs, r) => (breakValue c :: bs, r)
      else some ([], c :: rest)
termination_by cs.length

theorem length_readBreaks? {cs b r : List Char} (h : readBreaks? cs = some (b, r)) : r.length ≤ cs.length := by
  fun_induction readBreaks? cs generalizing b with
  | case1 => simp at h
  | case2 =>
    simp only [Option.some.injEq, Prod.mk.injEq] at h
    simp [← h.2]
  | case3 cs _ c rest hd _ hlt ih =>
    obtain ⟨p, hr, ⟨⟩⟩ := Option.map_eq_some_iff.1 h
    have := ih hr
    omega
  | case4 cs _ c rest hd _ =>
    simp only [Option.some.injEq, Prod.mk.injEq] at h
    have hl := (List.dropWhile_sublist isBlank (l := cs)).length_le
    rw [hd] at hl
    rw [← h.2]
    exact hl

/-- blanks and line ends within a quoted scalar, folded; the text does not end here -/
def readGap? (cs : List Char) : Option (List Char × List Char) :=
  match cs.dropWhile isBlank with
  | [] => none
  | c :: rest =>
    if isBreak c then (readBreaks? rest).map fun (bs, r) => (foldBreaks (breakValue c) bs, r)
    else some (cs.takeWhile isBlank, c :: rest)

theorem length_readGap? {c : Char} {cs g r : List Char} (hc : isSpace c = true) (h : readGap? (c :: cs) = some (g, r)) :
    r.length ≤ cs.length := by
  unfold readGap? at h
  split at h
  · simp at h
  · next d rest hd =>
    have hl := (List.dropWhile_sublist isBlank (l := c :: cs)).length_le
    rw [hd] at hl
    simp only [List.length_cons] at hl
    split at h
    · obtain ⟨p, hr, ⟨⟩⟩ := Option.map_eq_some_iff.1 h
      have := length_readBreaks? hr
      omega
    · next hb =>
      simp only [Option.some.injEq, Prod.mk.injEq] at h
      rw [← h.2]
      by_cases hs : isBlank c = true
      · rw [List.dropWhile_cons, if_pos hs] at hd
        have hl' := (List.dropWhile_sublist isBlank (l := cs)).length_le
        rw [hd] at hl'
        exact hl'
      · rw [List.dropWhile_cons, if_neg hs] at hd
        have hcd := (List.cons.inj hd).1
        subst hcd
        unfold isSpace at hc
        rw [Bool.or_eq_true] at hc
        rcases hc with hc | hc
        · exact absurd hc hs
        · exact absurd hc hb

/-- a scalar up to its closing quote, which is taken too; `double` tells the kind of quote -/
def readQuoted (double : Bool) (cs : List Char) : Except Fault (List Piece × List Char) :=
  match cs with
  | [] => .error .illFormed
  | c :: rest =>
    if hs : isSpace c = true then
      match hg : readGap? (c :: rest) with
      | none => .error .illFormed
      | some (g, r) =>
        have : r.length < rest.length + 1 := Nat.lt_succ_of_le (length_readGap? hs hg)
        (readQuoted double r).map fun (v, r) => (pieces g ++ v, r)
    else if c = '\x27' ∧ !double then
      match rest with
      | '\x27' :: rest => (readQuoted double rest).map fun (v, r) => (.character '\x27' :: v, r)
      | rest => .ok ([], rest)
    else if c = '\x22' ∧ double then .ok ([], rest)
    else if c = '\\' ∧ double then
      match rest with
      | [] => .error .illFormed
      | e :: rest =>
        if isBreak e then
          match hb : readBreaks? rest with
          | none => .error .illFormed
          | some (bs, r) =>
            have : r.length < rest.length + 1 + 1 := Nat.lt_succ_of_le (Nat.le_succ_of_le (length_readBreaks? hb))
            (readQuoted double r).map fun (v, r) => (pieces bs ++ v, r)
        else
          match he : readEscape e rest with
          | .error f => .error f
          | .ok (x, r) =>
            have : r.length < rest.length + 1 + 1 := Nat.lt_succ_of_le (Nat.le_succ_of_le (length_readEscape he))
            (readQuoted double r).map fun (v, r) => (x :: v, r)
    else (readQuoted double rest).map fun (v, r) => (.character c :: v, r)
termination_by cs.length

end SchemaTypings.Yaml
