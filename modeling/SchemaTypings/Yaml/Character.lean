/-
Characters of YAML texts. Line ends are LF, NEL and the two Unicode separators; CR has been turned into LF before. A line end
stands for LF, except that the Unicode separators stand for themselves.
-/

namespace SchemaTypings.Yaml

/-- characters that a text may hold -/
def isPrintable (c : Char) : Bool :=
  c = '\t' || c = '\n' || c = '\r' || (' ' ≤ c && c ≤ '~') || c = '\u0085' || ('\u00A0' ≤ c && c ≤ '\uFFFD')
    || 0x10000 ≤ c.toNat

def isBreak (c : Char) : Bool := c = '\n' || c = '\u0085' || c = '\u2028' || c = '\u2029'

/-- what a line end stands for -/
def breakValue (c : Char) : Char := if c = '\u0085' then '\n' else c

/-- blanks within a line -/
def isBlank (c : Char) : Bool := c = ' ' || c = '\t'

def isSpace (c : Char) : Bool := isBlank c || isBreak c

/-- whether the text is at its end, or at a blank or line end -/
def atSpace (cs : List Char) : Bool := cs.head?.all isSpace

/-- whether the text is at its end, or at a blank or line end, tabs apart -/
def atPlainSpace (cs : List Char) : Bool := cs.head?.all fun c => c = ' ' || isBreak c

/-- whether a line starts with the mark of a document -/
def atDocumentMark (cs : List Char) : Bool :=
  (cs.take 3 = ['-', '-', '-'] || cs.take 3 = ['.', '.', '.']) && atSpace (cs.drop 3)

/-- a comment and the blanks before it are left out; what follows is a line end or the end of the text, else none -/
def restOfLine? (cs : List Char) : Option (List Char) :=
  let cs := cs.dropWhile (· = ' ')
  let cs := if cs.head? = some '#' then cs.dropWhile (!isBreak ·) else cs
  match cs with
  | [] => some []
  | c :: rest => if isBreak c then some rest else none

/-- line ends between two lines that are folded: the first one is a blank if it is LF and no other follows -/
def foldBreaks (first : Char) (more : List Char) : List Char :=
  (if first ≠ '\n' then [first] else if more = [] then [' '] else []) ++ more

/-- characters of anchors, and of names of directives and tag handles -/
def isWord (c : Char) : Bool :=
  ('0' ≤ c && c ≤ '9') || ('A' ≤ c && c ≤ 'Z') || ('a' ≤ c && c ≤ 'z') || c = '-' || c = '_'

end SchemaTypings.Yaml
