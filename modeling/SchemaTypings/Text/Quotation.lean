/-
Texts in the quotes of a message, as code points: what cannot be shown is written by number.
-/
import SchemaTypings.Text.Printable
import SchemaTypings.Text.Str

namespace SchemaTypings.Text

/-- a code point by number, in as few digits as its range allows -/
def numbered (n : Nat) : List Char :=
  if n ≤ 0xFF then '\\' :: 'x' :: hexPadded false 2 n
  else if n ≤ 0xFFFF then '\\' :: 'u' :: hexPadded false 4 n
  else '\\' :: 'U' :: hexPadded false 8 n

def quotedCode (mark : Char) (n : Nat) : List Char :=
  if n = mark.toNat then ['\\', mark]
  else if n = '\\'.toNat then ['\\', '\\']
  else if n = '\n'.toNat then ['\\', 'n']
  else if n = '\r'.toNat then ['\\', 'r']
  else if n = '\t'.toNat then ['\\', 't']
  else if isShown n then [Char.ofNat n]
  else numbered n

/-- code points in quotes: double ones if only single ones are among them -/
def quoteCodes (codes : List Nat) : String :=
  let mark := if codes.contains '\x27'.toNat && !codes.contains '\x22'.toNat then '\x22' else '\x27'
  String.ofList (mark :: codes.flatMap (quotedCode mark) ++ [mark])

def quoteText (s : String) : String := quoteCodes (s.toList.map (·.toNat))

def quoteStr (s : Str) : String := quoteCodes (s.pieces.map Piece.code)

/-- characters from the start on, as many as have no more than so many bytes -/
def takeBytes (limit : Nat) : List Char → List Char
  | [] => []
  | c :: cs => if c.utf8Size ≤ limit then c :: takeBytes (limit - c.utf8Size) cs else []

/-- a text of more than fifty bytes without its middle -/
def shorten (s : String) : String :=
  if s.utf8ByteSize ≤ 50 then s
  else String.ofList (takeBytes 25 s.toList ++ ['.', '.', '.'] ++ (takeBytes 24 s.toList.reverse).reverse)

end SchemaTypings.Text
