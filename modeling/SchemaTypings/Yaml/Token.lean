/-
Tokens of a YAML text. Indentation is turned into tokens: `blockSequence` and `blockMapping` open a block collection,
`blockEnd` closes it. A key that is not marked by a question mark shows only at the colon after it; its token is then put in
before the tokens of the key.

Tokens are asked for one by one, but where a key may start they are held back until it is known. A text with a fault has the
tokens that can be had before, and then the token `excess`: what is made of them may break down first.
-/
import SchemaTypings.Yaml.Quoted
import SchemaTypings.Yaml.Plain
import SchemaTypings.Yaml.Block

namespace SchemaTypings.Yaml

open SchemaTypings.Text

/-- directives before a document -/
inductive Directive where
  | version (major : Nat)
  | handle (name expansion : String)
  | other
  deriving DecidableEq, Repr

/-- tokens; `excess` stands for the rest of a text with a fault -/
inductive Token where
  | directive (d : Directive)
  | documentStart
  | documentEnd
  | blockSequence
  | blockMapping
  | blockEnd
  | flowSequence
  | flowSequenceEnd
  | flowMapping
  | flowMappingEnd
  | blockEntry
  | flowEntry
  | key
  | value
  | alias (name : String)
  | anchor (name : String)
  | tag (handle : Option String) (suffix : String)
  | scalar (plain : Bool) (text : List Piece)
  | excess (f : Fault)
  deriving DecidableEq, Repr

/-- a word of one or more characters -/
def readWord? (cs : List Char) : Option (String × List Char) :=
  let word := cs.takeWhile isWord
  if word = [] then none else some (String.ofList word, cs.dropWhile isWord)

/-- characters of a tag or of the expansion of a handle -/
def isTagCharacter (c : Char) : Bool :=
  isWord c || ";/?:@&=+$,.!~*'()[]%".toList.contains c

/-- bytes that are written with percent signs at the start of a text -/
def readPercents? : List Char → Option (List UInt8 × List Char)
  | '%' :: a :: b :: rest => do
    let n ← hexNumber? [a, b]
    let (bs, rest) ← readPercents? rest
    return (n.toUInt8 :: bs, rest)
  | '%' :: _ => none
  | cs => some ([], cs)

/-- characters of a tag, with percent signs for other characters in their UTF-8 form; at least one is there -/
def readTagText? (cs : List Char) : Option (String × List Char) :=
  let rec go (cs : List Char) : Option (List Char × List Char) :=
    match cs with
    | [] => some ([], [])
    | c :: rest =>
      if c = '%' then
        match readPercents? (c :: rest) with
        | none => none
        | some (bs, r) =>
          match String.fromUTF8? ⟨bs.toArray⟩ with
          | none => none
          | some s => if r.length < rest.length + 1 then (go r).map fun (t, r) => (s.toList ++ t, r) else none
      else if isTagCharacter c then (go rest).map fun (t, r) => (c :: t, r)
      else some ([], c :: rest)
  termination_by cs.length
  match go cs with
  | none => none
  | some (t, rest) => if t = [] then none else some (String.ofList t, rest)

/-- the handle of a tag: `!`, `!!`, or a word between exclamation marks; the first mark is next -/
def readHandle? (cs : List Char) : Option (String × List Char) :=
  match cs with
  | '!' :: rest =>
    if rest.head? = some ' ' then some ("!", rest)
    else
      match rest.dropWhile isWord with
      | '!' :: after => some (String.ofList ('!' :: rest.takeWhile isWord ++ ['!']), after)
      | _ => none
  | _ => none

/-- a tag after its exclamation mark -/
def readTag? (cs : List Char) : Option (Token × List Char) := do
  let (t, rest) ←
    match cs with
    | '<' :: cs => do
      let (suffix, rest) ← readTagText? cs
      match rest with
      | '>' :: rest => pure (Token.tag none suffix, rest)
      | _ => none
    | cs =>
      if atSpace cs then pure (Token.tag none "!", cs)
      else if (cs.takeWhile fun c => !(c = ' ' || isBreak c)).contains '!' then do
        let (handle, rest) ← readHandle? ('!' :: cs)
        let (suffix, rest) ← readTagText? rest
        pure (Token.tag (some handle) suffix, rest)
      else do
        let (suffix, rest) ← readTagText? cs
        pure (Token.tag (some "!") suffix, rest)
  if atPlainSpace rest then some (t, rest) else none

/-- the name of an anchor or alias, and what may follow it -/
def readAnchor? (cs : List Char) : Option (String × List Char) := do
  let (name, rest) ← readWord? cs
  if atSpace rest || rest.head?.any ("?:,]\x7d%@\x60".toList.contains ·) then some (name, rest) else none

/-- value of decimal digits, at least one -/
def readNumber? (cs : List Char) : Option (Nat × List Char) :=
  let ds := cs.takeWhile isDigit
  if ds = [] ∨ digitLimit < ds.length then none
  else some (decimal ds, cs.dropWhile isDigit)

/-- a directive after its percent sign, up to the start of the next line -/
def readDirective? (cs : List Char) : Option (Directive × List Char) := do
  let (name, rest) ← readWord? cs
  if !atPlainSpace rest then none
  else
    let (d, rest) ←
      if name = "YAML" then do
        let (major, rest) ← readNumber? (rest.dropWhile (· = ' '))
        match rest with
        | '.' :: rest =>
          let (_, rest) ← readNumber? rest
          if atPlainSpace rest then pure (Directive.version major, rest) else none
        | _ => none
      else if name = "TAG" then do
        let (handle, rest) ← readHandle? (rest.dropWhile (· = ' '))
        if rest.head? ≠ some ' ' then none
        else
          let (expansion, rest) ← readTagText? (rest.dropWhile (· = ' '))
          if atPlainSpace rest then pure (Directive.handle handle expansion, rest) else none
      else pure (Directive.other, rest.dropWhile (!isBreak ·))
    let rest ← restOfLine? rest
    return (d, rest)

/-- a place where a key may have started -/
structure KeyPlace where
  /-- how many tokens stand before it -/
  number : Nat
  /-- whether it has to be a key, since a block mapping goes on there -/
  required : Bool
  /-- how many characters are left of the text -/
  left : Nat
  line : Nat
  column : Nat

/-- what has been read of a text, and what follows -/
structure Scan where
  rest : List Char
  line : Nat
  column : Nat
  /-- columns of the open block collections, innermost first -/
  indents : List Nat
  /-- where a key may have started, at the current depth of brackets -/
  place : Option KeyPlace
  /-- the same for the depths around it, innermost first -/
  outer : List (Option KeyPlace)
  /-- whether a key may start here -/
  keyAllowed : Bool
  /-- tokens read, last first -/
  tokens : List Token

namespace Scan

/-- the start of a text; a byte order mark there is no part of it -/
def start (cs : List Char) : Scan :=
  ⟨if cs.head? = some '\uFEFF' then cs.drop 1 else cs, 0, 0, [], none, [], true, []⟩

def inFlow (s : Scan) : Bool := !s.outer.isEmpty

/-- line and column after characters -/
def placeAfter (line column : Nat) : List Char → Nat × Nat
  | [] => (line, column)
  | c :: cs =>
    if isBreak c then placeAfter (line + 1) 0 cs
    else placeAfter line (if c = '\uFEFF' then column else column + 1) cs

/-- goes on to the place where `rest` is left of the text -/
def goTo (s : Scan) (rest : List Char) : Scan :=
  let (line, column) := placeAfter s.line s.column (s.rest.take (s.rest.length - rest.length))
  { s with rest, line, column }

def emit (s : Scan) (t : Token) : Scan := { s with tokens := t :: s.tokens }

/-- puts a token in after the first `number` tokens -/
def insert (s : Scan) (number : Nat) (t : Token) : Scan :=
  { s with tokens := s.tokens.insertIdx (s.tokens.length - number) t }

/-- forgets where a key may have started; fails if there has to be one -/
def dropPlace (s : Scan) : Option Scan :=
  if s.place.any (·.required) then none else some { s with place := none }

/-- notes that a key may start here -/
def notePlace (s : Scan) : Option Scan :=
  if s.keyAllowed then do
    let required := !s.inFlow && s.indents.head? = some s.column
    let s ← s.dropPlace
    return { s with place := some ⟨s.tokens.length, required, s.rest.length, s.line, s.column⟩ }
  else some s

/-- longest key without a mark -/
def keyLimit : Nat := 1024

/-- whether a key that started there can still end in a line where so many characters are left -/
def KeyPlace.isFresh (line left : Nat) (p : KeyPlace) : Bool := p.line = line && p.left - left ≤ keyLimit

/-- forgets the places whose key cannot end here any more; fails if one of them has to be a key -/
def dropStale (s : Scan) : Option Scan :=
  let isFresh := KeyPlace.isFresh s.line s.rest.length
  if ((s.place :: s.outer).filterMap id).any fun p => p.required && !isFresh p then none
  else some { s with place := s.place.filter isFresh, outer := s.outer.map (·.filter isFresh) }

/-- closes the block collections that are further right than the column -/
def closeTo (s : Scan) (column : Nat) : Scan :=
  if s.inFlow then s
  else
    let closed := s.indents.takeWhile (column < ·)
    { s with indents := s.indents.drop closed.length, tokens := List.replicate closed.length .blockEnd ++ s.tokens }

def closeAll (s : Scan) : Scan :=
  if s.inFlow then s
  else { s with indents := [], tokens := List.replicate s.indents.length .blockEnd ++ s.tokens }

/-- whether a block collection at the column would be a new one -/
def opensAt (s : Scan) (column : Nat) : Bool := s.indents.head?.all (· < column)

/-- opens a block collection here if there is none at the column yet -/
def openAt (s : Scan) (column : Nat) (t : Token) : Scan :=
  if s.opensAt column then { s.emit t with indents := column :: s.indents } else s

/-- least column of the further lines of a scalar -/
def scalarIndent (s : Scan) : Nat :=
  match s.indents with
  | [] => 0
  | i :: _ => i + 1

/-- goes on to the next token; a line end makes a key possible again outside brackets -/
def skipSpace (flow : Bool) (keyAllowed comment : Bool) : List Char → List Char × Bool
  | [] => ([], keyAllowed)
  | c :: cs =>
    if isBreak c then skipSpace flow (keyAllowed || !flow) false cs
    else if comment then skipSpace flow keyAllowed true cs
    else if c = ' ' then skipSpace flow keyAllowed false cs
    else if c = '#' then skipSpace flow keyAllowed true cs
    else (c :: cs, keyAllowed)

/-- goes on to the next token -/
def toToken (s : Scan) : Scan :=
  let (rest, keyAllowed) := skipSpace s.inFlow s.keyAllowed false s.rest
  { s.goTo rest with keyAllowed }

/-- a token that ends the line of a document: a directive or the mark of a document -/
def documentToken (s : Scan) (t : Token) (rest : List Char) : Option Scan := do
  let s ← s.closeAll.dropPlace
  return { (s.emit t).goTo rest with keyAllowed := false }

def openFlow (s : Scan) (t : Token) (rest : List Char) : Option Scan := do
  let s ← s.notePlace
  return { (s.emit t).goTo rest with place := none, outer := s.place :: s.outer, keyAllowed := true }

def closeFlow (s : Scan) (t : Token) (rest : List Char) : Option Scan := do
  let s ← s.dropPlace
  match s.outer with
  | [] => none
  | p :: outer => return { (s.emit t).goTo rest with place := p, outer, keyAllowed := false }

/-- a comma within brackets -/
def flowEntry (s : Scan) (rest : List Char) : Option Scan := do
  let s ← s.dropPlace
  return { (s.emit .flowEntry).goTo rest with keyAllowed := true }

/-- the dash of an entry of a block sequence -/
def blockEntry (s : Scan) (rest : List Char) : Option Scan := do
  if s.inFlow then
    let s ← s.dropPlace
    return { (s.emit .blockEntry).goTo rest with keyAllowed := true }
  else if s.keyAllowed then
    let s ← (s.openAt s.column .blockSequence).dropPlace
    return { (s.emit .blockEntry).goTo rest with keyAllowed := true }
  else none

/-- the question mark before a key -/
def keyMark (s : Scan) (rest : List Char) : Option Scan := do
  if s.inFlow then
    let s ← s.dropPlace
    return { (s.emit .key).goTo rest with keyAllowed := false }
  else if s.keyAllowed then
    let s ← (s.openAt s.column .blockMapping).dropPlace
    return { (s.emit .key).goTo rest with keyAllowed := true }
  else none

/-- the colon after a key -/
def valueMark (s : Scan) (rest : List Char) : Option Scan :=
  match s.place with
  | some p =>
    let s := s.insert p.number .key
    let s :=
      if !s.inFlow && s.opensAt p.column then
        { s.insert p.number .blockMapping with indents := p.column :: s.indents }
      else s
    some { (s.emit .value).goTo rest with place := none, keyAllowed := false }
  | none =>
    if s.inFlow then some { (s.emit .value).goTo rest with keyAllowed := false }
    else if s.keyAllowed then
      some { ((s.openAt s.column .blockMapping).emit .value).goTo rest with keyAllowed := true }
    else none

def keyToken (s : Scan) (t : Token) (rest : List Char) : Option Scan := do
  let s ← s.notePlace
  return { (s.emit t).goTo rest with keyAllowed := false }

def blockScalar (s : Scan) (folded : Bool) (cs : List Char) : Option Scan := do
  let s ← s.dropPlace
  let (text, rest) ← readBlock? folded (max 1 s.scalarIndent) cs
  return { (s.emit (.scalar false (pieces text))).goTo rest with keyAllowed := true }

def quotedScalar (s : Scan) (double : Bool) (cs : List Char) : Except Fault Scan := do
  let s ← expect s.notePlace
  let (text, rest) ← readQuoted double cs
  return { (s.emit (.scalar false text)).goTo rest with keyAllowed := false }

def plainScalar (s : Scan) : Option Scan := do
  let s ← s.notePlace
  let p := readPlain s.inFlow s.scalarIndent s.rest
  return { (s.emit (.scalar true (pieces p.text))).goTo p.rest with keyAllowed := p.broken }

/-- the token that starts with `c`, which `cs` follows -/
def token (s : Scan) (c : Char) (cs : List Char) : Except Fault Scan :=
  if c = '%' ∧ s.column = 0 then expect do
    let (d, rest) ← readDirective? cs
    s.documentToken (.directive d) rest
  else if s.column = 0 ∧ atDocumentMark (c :: cs) = true then
    expect (s.documentToken (if c = '-' then .documentStart else .documentEnd) (cs.drop 2))
  else if c = '[' then expect (s.openFlow .flowSequence cs)
  else if c = '{' then expect (s.openFlow .flowMapping cs)
  else if c = ']' then expect (s.closeFlow .flowSequenceEnd cs)
  else if c = '}' then expect (s.closeFlow .flowMappingEnd cs)
  else if c = ',' then expect (s.flowEntry cs)
  else if c = '-' ∧ atSpace cs = true then expect (s.blockEntry cs)
  else if c = '?' ∧ (s.inFlow || atSpace cs) = true then expect (s.keyMark cs)
  else if c = ':' ∧ (s.inFlow || atSpace cs) = true then expect (s.valueMark cs)
  else if c = '*' then expect do
    let (name, rest) ← readAnchor? cs
    s.keyToken (.alias name) rest
  else if c = '&' then expect do
    let (name, rest) ← readAnchor? cs
    s.keyToken (.anchor name) rest
  else if c = '!' then expect do
    let (t, rest) ← readTag? cs
    s.keyToken t rest
  else if c = '|' ∧ s.inFlow = false then expect (s.blockScalar false cs)
  else if c = '>' ∧ s.inFlow = false then expect (s.blockScalar true cs)
  else if c = '\x27' then s.quotedScalar false cs
  else if c = '\x22' then s.quotedScalar true cs
  else if startsPlain s.inFlow (c :: cs) then expect s.plainScalar
  else .error .illFormed

/-- the tokens of a text with a fault at the next one: those before the first place of a key can be had -/
def breakOff (s : Scan) (f : Fault) : List Token :=
  let places := (s.place :: s.outer).filterMap id |>.filter (KeyPlace.isFresh s.line s.rest.length)
  s.tokens.reverse.take ((places.map (·.number)).foldl min s.tokens.length) ++ [.excess f]

def run (s : Scan) : List Token :=
  match s.toToken.dropStale with
  | none => s.breakOff .illFormed
  | some t =>
    match t.rest with
    | [] =>
      match t.closeAll.dropPlace with
      | none => s.breakOff .illFormed
      | some u => u.tokens.reverse
    | c :: cs =>
      match (t.closeTo t.column).token c cs with
      | .error f => s.breakOff f
      | .ok u => if u.rest.length < s.rest.length then run u else s.breakOff .illFormed
termination_by s.rest.length

end Scan

/-- the tokens of a text; a text with characters that are not printable has none -/
def tokens (cs : List Char) : Except Fault (List Token) :=
  if cs.all isPrintable then .ok (Scan.start cs).run else .error .illFormed

end SchemaTypings.Yaml
