/-
Excerpt of a text around a place: the line with a caret under the column and the lines before and after it. A long line is
cut in chunks instead, and the caret stands below the chunk that holds the column.
-/
import SchemaTypings.Text.Line

namespace SchemaTypings.Text.Excerpt

/-- the characters of a line in chunks of `size` -/
def chunks (size : Nat) (cs : List Char) : List (List Char) :=
  if size = 0 ∨ cs.length ≤ size then [cs]
  else cs.take size :: chunks size (cs.drop size)
termination_by cs.length
decreasing_by simp only [List.length_drop]; omega

/-- the text with blanks before it, `width` wide -/
def padLeft (width : Nat) (cs : List Char) : List Char := List.replicate (width - cs.length) ' ' ++ cs

/-- rows of a margin and a content; margins are aligned to the right, an empty content leaves no blank -/
def rows (rs : List (List Char × List Char)) : List (List Char) :=
  let width := (rs.map (·.1.length)).foldl max 0
  rs.map fun (margin, content) => padLeft width margin ++ if content = [] then [] else ' ' :: content

def margin (line : Nat) : List Char := (toString line).toList ++ [' ', '|']

/-- margin of a row that is no line of the text -/
def barMargin : List Char := ['|']

/-- longest line that is shown as it is -/
def lineLimit : Nat := 120

def chunkSize : Nat := 80

/-- rows of a long line: the chunks up to the one with the column, the caret, the next chunk -/
def longLine (p : Position) (line : List Char) : List (List Char × List Char) :=
  let cs := chunks chunkSize line
  let i := min ((p.column - 1) / chunkSize) (cs.length - 1)
  (margin p.line, cs.headD []) :: ((cs.drop 1).take i).map (barMargin, ·)
    ++ (barMargin, padLeft (p.column - chunkSize * i) ['^']) :: ((cs.drop (i + 1)).take 1).map (barMargin, ·)

/-- rows of a line that fits, with its neighbours -/
def shortLine (p : Position) (before : List (List Char)) (line : List Char) (after : List (List Char)) :
    List (List Char × List Char) :=
  before.map (margin (p.line - 1), ·) ++ (margin p.line, line) :: (barMargin, padLeft p.column ['^']) ::
    after.map (margin (p.line + 1), ·)

/-- the excerpt around a position of a text, a row each -/
def around (text : List Char) (p : Position) : List (List Char) :=
  let lines := Line.split text
  let line := lines.getD (p.line - 1) []
  rows <|
    if line.length > lineLimit then longLine p line
    else shortLine p (if p.line < 2 then [] else (lines.drop (p.line - 2)).take 1) line ((lines.drop p.line).take 1)

end SchemaTypings.Text.Excerpt
