/-
Reading block scalars: a header, and lines with a common indent that are kept as they are or folded.
-/
import SchemaTypings.Text.CodePoint
import SchemaTypings.Yaml.Character

namespace SchemaTypings.Yaml

open SchemaTypings.Text

/-- what becomes of the line ends at the end of a block scalar -/
inductive Chomping where
  | strip
  | clip
  | keep
  deriving DecidableEq, Repr

/-- header of a block scalar: chomping and, if it is given, the indent on top of the surrounding one -/
structure BlockHeader where
  chomping : Chomping
  increment : Option Nat

def chomping? : Char → Option Chomping
  | '+' => some .keep
  | '-' => some .strip
  | _ => none

/-- increment of a digit; zero is none -/
def increment? (c : Char) : Option Nat := if '1' ≤ c ∧ c ≤ '9' then some (c.toNat - '0'.toNat) else none

/-- a header: sign and digit in any order, then the end of the line -/
def readBlockHeader? (cs : List Char) : Option (BlockHeader × List Char) :=
  let (header, rest) : BlockHeader × List Char :=
    match cs with
    | [] => (⟨.clip, none⟩, [])
    | c :: cs =>
      match chomping? c with
      | some ch =>
        match cs with
        | [] => (⟨ch, none⟩, [])
        | d :: rest =>
          match increment? d with
          | some n => (⟨ch, some n⟩, rest)
          | none => (⟨ch, none⟩, d :: rest)
      | none =>
        match increment? c with
        | none => (⟨.clip, none⟩, c :: cs)
        | some n =>
          match cs with
          | [] => (⟨.clip, some n⟩, [])
          | d :: rest =>
            match chomping? d with
            | some ch => (⟨ch, some n⟩, rest)
            | none => (⟨.clip, some n⟩, d :: rest)
  if atPlainSpace rest then (restOfLine? rest).map (header, ·) else none

/-- line ends before the first line, the widest indent among them, the indent of the last line, and the text after it -/
def leadingBreaks (column widest : Nat) : List Char → List Char × Nat × Nat × List Char
  | [] => ([], widest, column, [])
  | c :: cs =>
    if c = ' ' then leadingBreaks (column + 1) (max widest (column + 1)) cs
    else if isBreak c then
      let (bs, rest) := leadingBreaks 0 widest cs
      (breakValue c :: bs, rest)
    else ([], widest, column, c :: cs)

/-- line ends before a line with an indent of at most `indent`, that indent, and the text after it -/
def breaksBefore (indent column : Nat) : List Char → List Char × Nat × List Char
  | [] => ([], column, [])
  | c :: cs =>
    if c = ' ' ∧ column < indent then breaksBefore indent (column + 1) cs
    else if isBreak c then
      let (bs, rest) := breaksBefore indent 0 cs
      (breakValue c :: bs, rest)
    else ([], column, c :: cs)

/-- the lines from one on, the last line end (none at the end of the text), and the line ends after it -/
def readLinesFrom (folded : Bool) (indent : Nat) (cs : List Char) : List Char × List Char × List Char × List Char :=
  let line := cs.takeWhile (!isBreak ·)
  match cs.dropWhile (!isBreak ·) with
  | [] => (line, [], [], [])
  | b :: rest =>
    let (breaks, column, rest) := breaksBefore indent 0 rest
    if column = indent ∧ rest ≠ [] then
      if rest.length < cs.length then
        let join :=
          if folded && breakValue b = '\n' && !line.head?.any isBlank && !rest.head?.any isBlank then
            if breaks = [] then [' '] else []
          else [breakValue b]
        let (more, last) := readLinesFrom folded indent rest
        (line ++ join ++ breaks ++ more, last)
      else (line, [breakValue b], breaks, rest)
    else (line, [breakValue b], breaks, rest)
termination_by cs.length

/-- a block scalar after its first character; `least` is the least indent of its lines -/
def readBlock? (folded : Bool) (least : Nat) (cs : List Char) : Option (List Char × List Char) := do
  let (header, rest) ← readBlockHeader? cs
  let (breaks, indent, column, rest) :=
    match header.increment with
    | none =>
      let (breaks, widest, column, rest) := leadingBreaks 0 0 rest
      (breaks, max least widest, column, rest)
    | some n =>
      let indent := least + n - 1
      let (breaks, column, rest) := breaksBefore indent 0 rest
      (breaks, indent, column, rest)
  let (text, last, after, rest) :=
    if column = indent ∧ rest ≠ [] then
      let (text, last) := readLinesFrom folded indent rest
      (breaks ++ text, last)
    else ([], [], breaks, rest)
  return (match header.chomping with
    | .strip => text
    | .clip => text ++ last
    | .keep => text ++ last ++ after, rest)

end SchemaTypings.Yaml
