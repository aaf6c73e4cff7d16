/-
Texts as they appear on a screen. Messages go through a markup in which words in brackets are styles: a text is shown as it
is, except that a backslash before a bracket that opens no style is lost, that a single backslash at the end is doubled, and
that names of emoji between colons are drawn. Control characters that move the cursor are dropped and tabs are filled with
blanks.
-/
import SchemaTypings.Text.Emoji
import SchemaTypings.Text.Str
import SchemaTypings.Text.Width

namespace SchemaTypings.Command.Screen

open SchemaTypings.Text

/-- characters that move the cursor and are not shown -/
def isDropped (c : Char) : Bool := c = '\x07' || c = '\x08' || c = '\x0b' || c = '\x0c' || c = '\r'

def tabStop : Nat := 8

/-- a text with blanks up to the next stop for each tab, from a column on -/
def expandTabs (column : Nat) : List Char → List Char
  | [] => []
  | c :: cs =>
    if c = '\n' then '\n' :: expandTabs 0 cs
    else if c = '\t' then
      let n := tabStop - column % tabStop
      List.replicate n ' ' ++ expandTabs (column + n) cs
    else c :: expandTabs (column + columns c) cs

def startsStyle (c : Char) : Bool := ('a' ≤ c && c ≤ 'z') || c = '#' || c = '/' || c = '@'

/-- whether a bracket before the text opens a style: it is closed before another one is opened -/
def opensStyle (cs : List Char) : Bool :=
  cs.head?.any startsStyle && (cs.dropWhile fun c => c ≠ '[' && c ≠ ']').head? = some ']'

/-- whether the character does not close a style -/
def isInside (c : Char) : Bool := c ≠ ']'

def isBackslash (c : Char) : Bool := c = '\\'

/-- pieces of a text: each style with its brackets, the backslashes before it, and what stands between styles; `piece` is what
has been read of such a piece, last first -/
def cutStyles (piece : List Char) (cs : List Char) : List (List Char) :=
  match cs with
  | [] => [piece.reverse]
  | c :: rest =>
    if c = '[' ∧ opensStyle rest = true then
      have : (rest.dropWhile isInside).length - 1 < rest.length + 1 := by
        have hl := (List.dropWhile_sublist isInside (l := rest)).length_le
        omega
      (piece.dropWhile isBackslash).reverse :: piece.takeWhile isBackslash :: ('[' :: rest.takeWhile isInside ++ [']'])
        :: cutStyles [] ((rest.dropWhile isInside).drop 1)
    else cutStyles (c :: piece) rest
termination_by cs.length

/-- a piece without backslashes before brackets -/
def dropBackslashes : List Char → List Char
  | '\\' :: '[' :: cs => '[' :: dropBackslashes cs
  | c :: cs => c :: dropBackslashes cs
  | [] => []

/-- a text whose single backslash at the end is doubled -/
def closeBackslash (cs : List Char) : List Char :=
  if cs.getLast? = some '\\' ∧ cs.dropLast.getLast? ≠ some '\\' then cs ++ ['\\'] else cs

def message (column : Nat) (text : String) : String :=
  let pieces := cutStyles [] (closeBackslash text.toList)
  let shown := pieces.flatMap fun p => drawEmojis (dropBackslashes p)
  String.ofList (expandTabs column (shown.filter (!isDropped ·)))

/-- a text in a column of its own on the screen, which starts after `margin` columns: tab stops count from there, and each
further line starts there -/
def cell (margin : Nat) (text : String) : String :=
  let cs := expandTabs 0 (text.toList.filter (!isDropped ·))
  String.ofList (cs.flatMap fun c => if c = '\n' then '\n' :: List.replicate margin ' ' else [c])

/-- whether the character belongs to the numbers of a control sequence -/
def isSequenceParameter (c : Char) : Bool := c = ';' || c = '?' || ('0' ≤ c && c ≤ '9')

def isSequenceEnd (c : Char) : Bool := ('a' ≤ c && c ≤ 'z') || ('A' ≤ c && c ≤ 'Z')

/-- what follows a control sequence for a screen: escape, bracket, numbers, a letter -/
def afterSequence? : List Char → Option (List Char)
  | '\x1b' :: '[' :: rest =>
    match rest.dropWhile isSequenceParameter with
    | [] => none
    | c :: after => if isSequenceEnd c then some after else none
  | _ => none

theorem length_afterSequence? {cs after : List Char} (h : afterSequence? cs = some after) : after.length < cs.length := by
  unfold afterSequence? at h
  split at h
  · next rest =>
    have hl := (List.dropWhile_sublist isSequenceParameter (l := rest)).length_le
    cases hd : rest.dropWhile isSequenceParameter with
    | nil => simp [hd] at h
    | cons c more =>
      simp only [hd] at h
      split at h
      · obtain rfl := Option.some.inj h
        rw [hd, List.length_cons] at hl
        simp only [List.length_cons]
        omega
      · cases h
  · cases h

def dropSequences (cs : List Char) : List Char :=
  match cs with
  | [] => []
  | c :: rest =>
    match h : afterSequence? (c :: rest) with
    | none => c :: dropSequences rest
    | some after =>
      have : after.length < rest.length + 1 := length_afterSequence? h
      dropSequences after
termination_by cs.length

/-- a text that is written to a file or another program instead of a screen -/
def piped (text : String) : String := String.ofList (dropSequences text.toList)

/-- pieces without control sequences, in which there are no halves of pairs; `run` are the characters since the last half, last
first -/
def dropSequencesIn (run : List Char) : List Piece → List Piece
  | [] => pieces (dropSequences run.reverse)
  | .character c :: ps => dropSequencesIn (c :: run) ps
  | .half n :: ps => pieces (dropSequences run.reverse) ++ .half n :: dropSequencesIn [] ps

def pipedStr : Str → Str
  | .text s => .text (piped s)
  | .unpaired u => .ofPieces (dropSequencesIn [] u.pieces)

end SchemaTypings.Command.Screen
