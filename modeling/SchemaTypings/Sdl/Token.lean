/-
Tokens of the schema language, and the faults that keep a text from being a list of tokens.

A list of tokens carries no positions, so that what is said about it does not depend on blanks and comments. Where a text
stops being tokens the list ends with `Token.broken`, which tells why.
-/
import SchemaTypings.Text.CodePoint

namespace SchemaTypings.Sdl

inductive Punct where
  | bang
  | dollar
  | ampersand
  | parenOpen
  | parenClose
  | colon
  | equal
  | atSign
  | bracketOpen
  | bracketClose
  | braceOpen
  | braceClose
  | pipe
  | spread
  deriving DecidableEq, Repr

def Punct.text : Punct → String
  | .bang => "!"
  | .dollar => "$"
  | .ampersand => "&"
  | .parenOpen => "("
  | .parenClose => ")"
  | .colon => ":"
  | .equal => "="
  | .atSign => "@"
  | .bracketOpen => "["
  | .bracketClose => "]"
  | .braceOpen => "\x7b"
  | .braceClose => "\x7d"
  | .pipe => "|"
  | .spread => "..."

/-- why the characters at a place are no token -/
inductive Defect where
  | strayCharacter (c : Char)
  | twoDots
  | digitBeforeDot (digits : String)
  | digitAfterZero (c : Char)
  | digitExpected (found : Option Char)
  | openString
  | badEscape (text : String)
  | badUnicodeEscape (text : String)
  deriving DecidableEq, Repr

/-- tokens; strings carry the value they stand for -/
inductive Token where
  | punct (p : Punct)
  | name (text : String)
  | int (text : String)
  | float (text : String)
  | string (value : String)
  | block (value : String)
  | broken (why : Defect)
  deriving DecidableEq, Repr

/-- a character as messages show it, or the end of the text -/
def showCharacter : Option Char → String
  | none => "<EOF>"
  | some c =>
    if ' ' ≤ c ∧ c ≤ '~' then "'" ++ c.toString ++ "'"
    else "U+" ++ String.ofList (Text.hexPadded true 4 c.toNat)

def Defect.message : Defect → String
  | .strayCharacter c =>
    if c = '\x27' then "Unexpected single quote character ('), did you mean to use a double quote (\")?"
    else "Unexpected character: " ++ showCharacter (some c) ++ "."
  | .twoDots => "Unexpected '..', did you mean '...'?"
  | .digitBeforeDot ds => "Invalid number, expected digit before '.', did you mean '0." ++ ds ++ "'?"
  | .digitAfterZero c => "Invalid number, unexpected digit after 0: " ++ showCharacter (some c) ++ "."
  | .digitExpected c => "Invalid number, expected digit but got: " ++ showCharacter c ++ "."
  | .openString => "Unterminated string."
  | .badEscape t => "Invalid character escape sequence: '" ++ t ++ "'."
  | .badUnicodeEscape t => "Invalid Unicode escape sequence: '" ++ t ++ "'."

/-- a token, or the end of the text, as messages show it -/
def Token.describe : Option Token → String
  | none => "<EOF>"
  | some (.punct p) => "'" ++ p.text ++ "'"
  | some (.name n) => "Name '" ++ n ++ "'"
  | some (.int n) => "Int '" ++ n ++ "'"
  | some (.float n) => "Float '" ++ n ++ "'"
  | some (.string v) => "String '" ++ v ++ "'"
  | some (.block v) => "BlockString '" ++ v ++ "'"
  | some (.broken d) => d.message

end SchemaTypings.Sdl
