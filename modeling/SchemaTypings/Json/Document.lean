/-
JSON documents and how they are written: ASCII only, with an indent of `step` blanks for each level, or on one line without
blanks.
-/
import SchemaTypings.Text.Str

namespace SchemaTypings

/-- JSON documents; `unpaired` is a string that is no text, and `unkeyed` an object that has such a string for a key -/
inductive Json where
  | null
  | bool (b : Bool)
  | int (n : Int)
  | real (literal : String)
  | string (s : String)
  | unpaired (u : Text.Unpaired)
  | array (items : List Json)
  | object (entries : List (String × Json))
  | unkeyed
  deriving Repr

namespace Json

open SchemaTypings.Text

def unitEscape (n : Nat) : List Char := '\\' :: 'u' :: hexPadded false 4 n

/-- a character within a string; a slash is escaped too -/
def escape (c : Char) : List Char :=
  if c = '\x22' then ['\\', '\x22']
  else if c = '\\' then ['\\', '\\']
  else if c = '/' then ['\\', '/']
  else if c = '\x08' then ['\\', 'b']
  else if c = '\x0c' then ['\\', 'f']
  else if c = '\n' then ['\\', 'n']
  else if c = '\r' then ['\\', 'r']
  else if c = '\t' then ['\\', 't']
  else if c.toNat < 0x20 then unitEscape c.toNat
  else if c.toNat < 0x80 then [c]
  else if c.toNat < 0x10000 then unitEscape c.toNat
  else
    let (high, low) := splitSurrogates c.toNat
    unitEscape high ++ unitEscape low

def quote (s : List Char) : List Char := '\x22' :: s.flatMap escape ++ ['\x22']

def escapePiece : Piece → List Char
  | .character c => escape c
  | .half n => unitEscape n

/-- a string that is no text in quotes -/
def quotePieces (ps : List Piece) : List Char := '\x22' :: ps.flatMap escapePiece ++ ['\x22']

def ofStr : Str → Json
  | .text s => .string s
  | .unpaired u => .unpaired u

/-- start of a line, none if the document is written on one line -/
def newLine (step : Option Nat) (level : Nat) : List Char :=
  match step with
  | none => []
  | some n => '\n' :: List.replicate (n * level) ' '

/-- what stands between a key and its value -/
def keyEnd (step : Option Nat) : List Char :=
  match step with
  | none => [':']
  | some _ => [':', ' ']

mutual

def writeAt (step : Option Nat) (level : Nat) : Json → List Char
  | .null => "null".toList
  | .bool b => (if b then "true" else "false").toList
  | .int n => (toString n).toList
  | .real l => l.toList
  | .string s => quote s.toList
  | .unpaired u => quotePieces u.pieces
  | .array [] => ['[', ']']
  | .array (a :: as) =>
    '[' :: newLine step (level + 1) ++ writeAt step (level + 1) a ++ writeItems step (level + 1) as
      ++ newLine step level ++ [']']
  | .object [] => ['{', '}']
  | .unkeyed => ['{', '}']
  | .object ((k, v) :: es) =>
    '{' :: newLine step (level + 1) ++ quote k.toList ++ keyEnd step ++ writeAt step (level + 1) v
      ++ writeEntries step (level + 1) es ++ newLine step level ++ ['}']

/-- the items of an array after the first -/
def writeItems (step : Option Nat) (level : Nat) : List Json → List Char
  | [] => []
  | a :: as => ',' :: newLine step level ++ writeAt step level a ++ writeItems step level as

/-- the entries of an object after the first -/
def writeEntries (step : Option Nat) (level : Nat) : List (String × Json) → List Char
  | [] => []
  | (k, v) :: es =>
    ',' :: newLine step level ++ quote k.toList ++ keyEnd step ++ writeAt step level v ++ writeEntries step level es

end

/-- a document as text, with `step` blanks for each level or on one line -/
def write (step : Option Nat) (j : Json) : List Char := writeAt step 0 j

end Json

end SchemaTypings
