/-
Reading JSON documents. On top of the standard, numbers may start with zeros, a lone minus sign is zero, and `NaN` and
`Infinity` are numbers; strings may hold control characters. Of two entries with one key the later value stays, at the place
of the first. Arrays and objects may be nested up to a limit.
-/
import SchemaTypings.Entries
import SchemaTypings.Json.Document

namespace SchemaTypings.Json

open SchemaTypings.Text

def isBlank (c : Char) : Bool := c = ' ' || c = '\t' || c = '\n' || c = '\r'

def skipBlanks (cs : List Char) : List Char := cs.dropWhile isBlank

/-- the text after a word that it starts with -/
def afterWord? (word cs : List Char) : Option (List Char) :=
  if cs.take word.length = word then some (cs.drop word.length) else none

/-- the character that a letter after a backslash stands for -/
def escaped? : Char → Option Char
  | '\x22' => some '\x22'
  | '\\' => some '\\'
  | '/' => some '/'
  | 'b' => some '\x08'
  | 'f' => some '\x0c'
  | 'n' => some '\n'
  | 'r' => some '\r'
  | 't' => some '\t'
  | _ => none

/-- pieces of a string up to its closing quote, and the text after it -/
def readPieces : List Char → Option (List Piece × List Char)
  | [] => none
  | '\x22' :: rest => some ([], rest)
  | '\\' :: 'u' :: a :: b :: c :: d :: rest => do
    let n ← hexNumber? [a, b, c, d]
    let (ps, rest) ← readPieces rest
    return (.ofCode n :: ps, rest)
  | '\\' :: e :: rest => do
    let x ← escaped? e
    let (ps, rest) ← readPieces rest
    return (.character x :: ps, rest)
  | ['\\'] => none
  | c :: rest =>
    if c = '\x00' then none
    else do
      let (ps, rest) ← readPieces rest
      return (.character c :: ps, rest)

/-- pieces in which the two halves of a pair of surrogates are one character -/
def joinPairs : List Piece → List Piece
  | [] => []
  | .half n :: .half m :: ps =>
    if isHighSurrogate n && isLowSurrogate m then .ofCode (joinSurrogates n m) :: joinPairs ps
    else .half n :: joinPairs (.half m :: ps)
  | p :: ps => p :: joinPairs ps

/-- the text of pieces, none if half of a pair stands alone -/
def textOf? (ps : List Piece) : Option String := (characters? (joinPairs ps)).map String.ofList

def ofPieces (ps : List Piece) : Json := ofStr (.ofPieces (joinPairs ps))

def ofEntries (es : List (Option String × Json)) : Json :=
  match es.mapM fun (k, j) => k.map (·, j) with
  | some es => .object (Entries.ofList es)
  | none => .unkeyed

/-- numbers of 64 bits are less, and may have any number of zeros before them -/
def wordLimit : Nat := 18446744073709551616

/-- a number without its sign: digits, a fraction and an exponent, each of which may be empty up to a point -/
def readMagnitude (negative : Bool) (cs : List Char) : Option (Json × List Char) :=
  let whole := cs.takeWhile isDigit
  let rest := cs.dropWhile isDigit
  let (fraction, rest, dotted) :=
    match rest with
    | '.' :: rest => (rest.takeWhile isDigit, rest.dropWhile isDigit, true)
    | rest => ([], rest, false)
  let sign := if negative then ['-'] else []
  match rest with
  | e :: after =>
    if e = 'e' ∨ e = 'E' then
      let mark := (after.take 1).filter fun c => c = '+' || c = '-'
      let digits := (after.drop mark.length).takeWhile isDigit
      if whole ++ fraction = [] ∨ digits = [] then none
      else
        some (.real (String.ofList (sign ++ whole ++ '.' :: fraction ++ e :: mark ++ digits)),
          (after.drop mark.length).dropWhile isDigit)
    else plain whole fraction dotted sign (e :: after)
  | [] => plain whole fraction dotted sign []
where
  /-- a number without exponent -/
  plain (whole fraction : List Char) (dotted : Bool) (sign rest : List Char) : Option (Json × List Char) :=
    if dotted then
      if whole ++ fraction = [] then none else some (.real (String.ofList (sign ++ whole ++ '.' :: fraction)), rest)
    else if digitLimit < whole.length ∧ wordLimit ≤ decimal whole then none
    else some (.int (if sign = [] then decimal whole else -decimal whole), rest)

/-- a document that is neither string, array nor object -/
def readAtom (cs : List Char) : Option (Json × List Char) :=
  match cs with
  | 't' :: _ => (afterWord? "true".toList cs).map (.bool true, ·)
  | 'f' :: _ => (afterWord? "false".toList cs).map (.bool false, ·)
  | 'n' :: _ => (afterWord? "null".toList cs).map (.null, ·)
  | 'N' :: _ => (afterWord? "NaN".toList cs).map (.real "NaN", ·)
  | 'I' :: _ => (afterWord? "Infinity".toList cs).map (.real "Infinity", ·)
  | '-' :: 'I' :: rest => (afterWord? "Infinity".toList ('I' :: rest)).map (.real "-Infinity", ·)
  | '-' :: rest => readMagnitude true rest
  | c :: _ => if isDigit c then readMagnitude false cs else none
  | [] => none

/-- items of an array up to its bracket, given the rule for an item; the first character of an item is next -/
def readItems (item : List Char → Option (Json × List Char)) (cs : List Char) : Option (List Json × List Char) :=
  match item cs with
  | none => none
  | some (j, rest) =>
    match skipBlanks rest with
    | ']' :: rest' => some ([j], rest')
    | ',' :: rest' =>
      if rest'.length < cs.length then (readItems item rest').map fun (js, r) => (j :: js, r) else none
    | _ => none
termination_by cs.length

/-- entries of an object up to its brace, given the rule for a value; the quote of a key is next -/
def readEntries (value : List Char → Option (Json × List Char)) (cs : List Char) :
    Option (List (Option String × Json) × List Char) :=
  match skipBlanks cs with
  | '\x22' :: rest =>
    match readPieces rest with
    | none => none
    | some (key, rest) =>
      match skipBlanks rest with
      | ':' :: rest =>
        match value rest with
        | none => none
        | some (j, rest) =>
          let entry := (textOf? key, j)
          match skipBlanks rest with
          | '}' :: rest' => some ([entry], rest')
          | ',' :: rest' =>
            if rest'.length < cs.length then (readEntries value rest').map fun (es, r) => (entry :: es, r) else none
          | _ => none
      | _ => none
  | _ => none
termination_by cs.length

/-- how many arrays and objects may be open at once -/
def levelLimit : Nat := 1024

/-- a document at the start of a text, and the text after it -/
def readValue : (levels : Nat) → List Char → Option (Json × List Char)
  | levels, cs =>
    match skipBlanks cs with
    | '\x22' :: rest => (readPieces rest).map fun (ps, r) => (ofPieces ps, r)
    | '[' :: rest =>
      match levels with
      | 0 => none
      | levels + 1 =>
        match skipBlanks rest with
        | ']' :: rest => some (.array [], rest)
        | rest => (readItems (readValue levels) rest).map fun (js, r) => (.array js, r)
    | '{' :: rest =>
      match levels with
      | 0 => none
      | levels + 1 =>
        match skipBlanks rest with
        | '}' :: rest => some (.object [], rest)
        | rest =>
          (readEntries (readValue levels) rest).map fun (es, r) => (ofEntries es, r)
    | rest => readAtom rest

def read? (text : List Char) : Option Json :=
  match readValue levelLimit text with
  | some (j, rest) => if skipBlanks rest = [] then some j else none
  | none => none

end SchemaTypings.Json
