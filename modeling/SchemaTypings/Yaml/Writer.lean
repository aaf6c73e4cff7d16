/-
Writing scalars of YAML. A text is written plain if it reads back as a text that way; in double quotes if it holds a character
that is not printable ASCII, as a string is that is no text; otherwise in single quotes. Lines are folded where they get wide,
further lines are indented.
-/
import SchemaTypings.Text.Str
import SchemaTypings.Yaml.Character
import SchemaTypings.Yaml.Plain
import SchemaTypings.Yaml.Tag

namespace SchemaTypings.Yaml

open SchemaTypings.Text

/-- column after which a line is folded -/
def widthLimit : Nat := 80

def foldIndent : Nat := 2

/-- start of a further line -/
def foldedLine : List Char := '\n' :: List.replicate foldIndent ' '

def isAsciiPrintable (c : Char) : Bool := ' ' ≤ c && c ≤ '~'

/-- whether a text holds a character that only double quotes can write -/
def needsDouble (cs : List Char) : Bool := cs.any fun c => !(c = '\n' || isAsciiPrintable c)

/-- whether a blank stands next to a line end -/
def hasBlankAtBreak : List Char → Bool
  | a :: b :: cs => (a = ' ' && isBreak b) || (isBreak a && b = ' ') || hasBlankAtBreak (b :: cs)
  | _ => false

/-- whether the text is at its end, or at a character that ends a word of a plain scalar -/
def atWordEnd (cs : List Char) : Bool := cs.head?.all fun c => isSpace c || c = '\r' || c = '\x00'

/-- whether characters after the first one end a plain scalar or start a comment; `spaced` says that a blank is before -/
def hasInnerMark (spaced : Bool) : List Char → Bool
  | [] => false
  | c :: cs => (c = ':' && atWordEnd cs) || (c = '#' && spaced) || hasInnerMark (atWordEnd [c]) cs

/-- whether the first character keeps a text from being plain -/
def hasFirstMark : List Char → Bool
  | [] => false
  | c :: cs =>
    "#,[]\x7b\x7d&*!|>'\"%@\x60".toList.contains c || ((c = '-' || c = '?' || c = ':') && atWordEnd cs)

/-- whether a text without special characters can be written plain -/
def canBePlain (cs : List Char) : Bool :=
  Tag.ofPlain cs = .text && cs.head? ≠ some ' ' && cs.getLast? ≠ some ' ' && !cs.any isBreak
    && cs.take 3 ≠ ['-', '-', '-'] && cs.take 3 ≠ ['.', '.', '.'] && !hasFirstMark cs
    && !hasInnerMark (cs.head?.any fun c => atWordEnd [c]) (cs.drop 1)

/-- a plain scalar from a column on; a single blank beyond the width is a line end. `inner` says that the first character
follows one that is no blank -/
def writePlain (column : Nat) (inner : Bool) : List Char → List Char
  | [] => []
  | c :: cs =>
    if c = ' ' then
      if inner ∧ widthLimit < column ∧ cs.head? ≠ some ' ' then foldedLine ++ writePlain foldIndent true cs
      else ' ' :: writePlain (column + 1) false cs
    else c :: writePlain (column + 1) true cs

/-- a text within single quotes from a column on. Quotes are doubled, a run of line ends gets one more, a single blank beyond
the width is a line end unless it is the first or last character. `inner` says that the first character follows one that is no
blank -/
def writeSingle (column : Nat) (inner : Bool) : List Char → List Char
  | [] => []
  | c :: cs =>
    if c = '\n' then
      '\n' :: (if cs.head? = some '\n' then writeSingle column true cs
        else foldedLine ++ writeSingle foldIndent true cs)
    else if c = ' ' then
      if inner ∧ widthLimit < column ∧ cs ≠ [] ∧ cs.head? ≠ some ' ' then
        foldedLine ++ writeSingle foldIndent true cs
      else ' ' :: writeSingle (column + 1) false cs
    else if c = '\x27' then '\x27' :: '\x27' :: writeSingle (column + 2) true cs
    else c :: writeSingle (column + 1) true cs

/-- letter that stands for a character after a backslash -/
def letterOf? (c : Char) : Option Char :=
  if c = '\x00' then some '0'
  else if c = '\x07' then some 'a'
  else if c = '\x08' then some 'b'
  else if c = '\t' then some 't'
  else if c = '\n' then some 'n'
  else if c = '\x0b' then some 'v'
  else if c = '\x0c' then some 'f'
  else if c = '\r' then some 'r'
  else if c = '\x1b' then some 'e'
  else if c = '\x22' then some '\x22'
  else if c = '\\' then some '\\'
  else if c = '\u0085' then some 'N'
  else if c = '\u00A0' then some '_'
  else if c = '\u2028' then some 'L'
  else if c = '\u2029' then some 'P'
  else none

/-- a code point after a backslash -/
def numberedEscape (n : Nat) : List Char :=
  if n ≤ 0xFF then '\\' :: 'x' :: hexPadded true 2 n
  else if n ≤ 0xFFFF then '\\' :: 'u' :: hexPadded true 4 n
  else '\\' :: 'U' :: hexPadded true 8 n

/-- a piece after a backslash -/
def escapeOf : Piece → List Char
  | .character c =>
    match letterOf? c with
    | some l => ['\\', l]
    | none => numberedEscape c.toNat
  | .half n => numberedEscape n

/-- the character that a piece is written as, none if it is written after a backslash -/
def unescaped? : Piece → Option Char
  | .character c => if c = '\x22' || c = '\\' || !isAsciiPrintable c then none else some c
  | .half _ => none

def isBlankPiece (p : Piece) : Bool := p = .character ' '

/-- start of a further line within double quotes; a blank at its start is marked -/
def doubleFold (next : Option Piece) : List Char := '\\' :: foldedLine ++ if next.any isBlankPiece then ['\\'] else []

/-- column after the start of a further line within double quotes -/
def doubleFoldColumn (next : Option Piece) : Nat := foldIndent + if next.any isBlankPiece then 1 else 0

/-- a string within double quotes from a column on. `held` are characters before it that are not written yet, last first, and
`first` says that there is no character before it. Where a line is wide it is folded before a blank, before a character that
follows an escape or the start of a line, and after an escape; never before the second or after the last but one -/
def writeDouble (column : Nat) (held : List Char) (first : Bool) : List Piece → List Char
  | [] => held.reverse
  | p :: ps =>
    match unescaped? p with
    | none =>
      let out := held.reverse ++ escapeOf p
      if !first ∧ ps ≠ [] ∧ widthLimit + 1 < column + out.length then
        out ++ doubleFold ps.head? ++ writeDouble (doubleFoldColumn ps.head?) [] false ps
      else out ++ writeDouble (column + out.length) [] false ps
    | some c =>
      if !first ∧ ps ≠ [] ∧ (c = ' ' ∨ held = []) ∧ widthLimit < column + held.length then
        held.reverse ++ doubleFold (some p) ++ writeDouble (doubleFoldColumn (some p)) [c] false ps
      else writeDouble column (c :: held) false ps

/-- a string in double quotes from a column on -/
def writeQuoted (column : Nat) (ps : List Piece) : List Char := '\x22' :: writeDouble (column + 1) [] true ps ++ ['\x22']

/-- a text as a scalar from a column on -/
def writeText (column : Nat) (cs : List Char) : List Char :=
  if cs = [] then ['\x27', '\x27']
  else if needsDouble cs || hasBlankAtBreak cs then writeQuoted column (pieces cs)
  else if canBePlain cs then writePlain column false cs
  else '\x27' :: writeSingle (column + 1) false cs ++ ['\x27']

/-- a string as a scalar from a column on -/
def writeScalar (column : Nat) : Str → List Char
  | .text s => writeText column s.toList
  | .unpaired u => writeQuoted column u.pieces

/-- a line of a mapping -/
def writeEntry (key : String) (value : Str) : List Char :=
  key.toList ++ ':' :: ' ' :: writeScalar (key.length + 2) value ++ ['\n']

end SchemaTypings.Yaml
