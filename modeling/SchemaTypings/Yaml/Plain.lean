/-
Reading plain scalars: chunks of characters with gaps between them. A chunk ends at a blank or line end, at a colon before one,
and within brackets at the characters that structure a collection. A gap is blanks, or line ends that are folded.
-/
import SchemaTypings.Yaml.Character

namespace SchemaTypings.Yaml

/-- characters that a plain scalar does not start with, unless they are the first of a word as below -/
def isIndicator (c : Char) : Bool :=
  "-?:,[]\x7b\x7d#&*!|>'\"%@\x60".toList.contains c

/-- whether a plain scalar starts here; `flow` says that this is within brackets -/
def startsPlain (flow : Bool) : List Char → Bool
  | [] => false
  | c :: cs =>
    (!isSpace c && !isIndicator c) || (!atSpace cs && (c = '-' || (!flow && (c = '?' || c = ':'))))

/-- characters that end a word after a colon within brackets -/
def isFlowMark (c : Char) : Bool := c = ',' || c = '[' || c = ']' || c = '{' || c = '}'

def endsChunk (flow : Bool) : List Char → Bool
  | [] => true
  | c :: cs =>
    isSpace c || (c = ':' && (atSpace cs || (flow && cs.head?.any isFlowMark))) || (flow && (c = '?' || isFlowMark c))

/-- a chunk and the text after it -/
def readChunk (flow : Bool) : List Char → List Char × List Char
  | [] => ([], [])
  | c :: cs =>
    if endsChunk flow (c :: cs) then ([], c :: cs)
    else
      let (chunk, rest) := readChunk flow cs
      (c :: chunk, rest)

/-- what stands between two chunks -/
structure Gap where
  text : List Char
  rest : List Char
  /-- blanks before the next chunk if it is on a line of its own -/
  column : Option Nat

/-- blanks and line ends after a line end; none if there is a mark of a document. `column` counts the blanks of the line -/
def readLines (column : Nat) : List Char → Option (List Char) × List Char × Nat
  | [] => (some [], [], column)
  | c :: cs =>
    if c = ' ' then readLines (column + 1) cs
    else if isBreak c then
      if atDocumentMark cs then (none, cs, 0)
      else
        let (bs, rest, column) := readLines 0 cs
        (bs.map (breakValue c :: ·), rest, column)
    else (some [], c :: cs, column)

theorem length_readLines (column : Nat) (cs : List Char) : (readLines column cs).2.1.length ≤ cs.length := by
  fun_induction readLines column cs with
  | case1 => simp
  | case2 _ cs ih => simp only [List.length_cons]; omega
  | case3 => simp
  | case4 _ c cs _ _ _ bs rest col h ih =>
    simp only [h, List.length_cons] at ih ⊢
    omega
  | case5 => simp

/-- the gap after a chunk; its text is empty if the scalar ends before it -/
def readGap (cs : List Char) : Gap :=
  let blanks := cs.takeWhile (· = ' ')
  match cs.dropWhile (· = ' ') with
  | [] => ⟨blanks, [], none⟩
  | c :: rest =>
    if isBreak c then
      if atDocumentMark rest then ⟨[], rest, some 0⟩
      else
        match readLines 0 rest with
        | (none, rest, column) => ⟨[], rest, some column⟩
        | (some bs, rest, column) => ⟨foldBreaks (breakValue c) bs, rest, some column⟩
    else ⟨blanks, c :: rest, none⟩

theorem length_readGap (cs : List Char) : (readGap cs).rest.length ≤ cs.length := by
  have hl := (List.dropWhile_sublist (fun c => decide (c = ' ')) (l := cs)).length_le
  unfold readGap
  split
  · simp
  · next c rest hd =>
    rw [hd, List.length_cons] at hl
    split
    · split
      · simp only; omega
      · have := length_readLines 0 rest
        split
        · next h => simp only [h] at this ⊢; omega
        · next h => simp only [h] at this ⊢; omega
    · simp only [List.length_cons]; omega

/-- a plain scalar and what follows it; `broken` says whether a line end stands right before that -/
structure Plain where
  text : List Char
  rest : List Char
  broken : Bool

/-- a plain scalar from a chunk on, none (an empty text) if there is no chunk; `indent` is the least column of a further line -/
def readPlainFrom (flow : Bool) (indent : Nat) (broken : Bool) (cs : List Char) : Plain :=
  if cs.head? = some '#' ∨ endsChunk flow cs then ⟨[], cs, broken⟩
  else
    let chunk := (readChunk flow cs).1
    let gap := readGap (readChunk flow cs).2
    let outside := !flow && gap.column.any (· < indent)
    if gap.text = [] ∨ gap.rest.head? = some '#' ∨ outside = true then ⟨chunk, gap.rest, gap.column.isSome⟩
    else if gap.rest.length < cs.length then
      let more := readPlainFrom flow indent gap.column.isSome gap.rest
      if more.text = [] then ⟨chunk, more.rest, more.broken⟩ else ⟨chunk ++ gap.text ++ more.text, more.rest, more.broken⟩
    else ⟨chunk, gap.rest, gap.column.isSome⟩
termination_by cs.length

def readPlain (flow : Bool) (indent : Nat) (cs : List Char) : Plain := readPlainFrom flow indent false cs

end SchemaTypings.Yaml
