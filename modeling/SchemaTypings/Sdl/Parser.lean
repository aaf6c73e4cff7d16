/-
Reading a list of tokens. A parser takes tokens from the front of the list, or fails with a cause and the number of tokens
from the place of the failure on. The first token of the list is the current one; taking a token looks at the one after it,
so that a defect right behind a good token is reported before anything else.

`upTo` and `whileAt` repeat an item. Both end because an item has to take a token: one that takes none is refused.
-/
import SchemaTypings.Sdl.Token

namespace SchemaTypings.Sdl

/-- what a rule needs at the current token -/
inductive Wanted where
  | punct (p : Punct)
  | name
  | keyword (text : String)
  | endOfText
  deriving DecidableEq, Repr

/-- why tokens are refused -/
inductive Cause where
  | expected (wanted : Wanted) (found : Option Token)
  | unexpected (found : Option Token)
  | describedShorthand
  | strayDescription
  | constantVariable (name : String)
  | reservedValue (found : Option Token)
  | tooDeep
  | defect (why : Defect)
  deriving DecidableEq, Repr

/-- a cause and the number of tokens from its place on -/
structure Failure where
  cause : Cause
  left : Nat
  deriving DecidableEq, Repr

def Wanted.describe : Wanted → String
  | .punct p => "'" ++ p.text ++ "'"
  | .name => "Name"
  | .keyword k => "'" ++ k ++ "'"
  | .endOfText => "<EOF>"

def Cause.text : Cause → String
  | .expected w t => "Expected " ++ w.describe ++ ", found " ++ Token.describe t ++ "."
  | .unexpected t => "Unexpected " ++ Token.describe t ++ "."
  | .describedShorthand => "Unexpected description, descriptions are not supported on shorthand queries."
  | .strayDescription => "Unexpected description, only GraphQL definitions support descriptions."
  | .constantVariable n => "Unexpected variable '$" ++ n ++ "' in constant value."
  | .reservedValue t => Token.describe t ++ " is reserved and cannot be used for an enum value."
  | .tooDeep => "Document is nested too deeply. Parsing aborted."
  | .defect d => d.message

/-- the whole message of a cause -/
def Cause.message (c : Cause) : String := "Syntax Error: " ++ c.text

abbrev Parser := StateT (List Token) (Except Failure)

namespace Parser

variable {α β : Type}

/-- the current token, none at the end of the text -/
def current : Parser (Option Token) := fun ts => .ok (ts.head?, ts)

def refuse (c : Cause) : Parser α := fun ts => .error ⟨c, ts.length⟩

/-- refuses a token before the current one; `back` is how many tokens before -/
def refuseBack (back : Nat) (c : Cause) : Parser α := fun ts => .error ⟨c, ts.length + back⟩

/-- refuses the current token because no rule starts with it -/
def unexpected : Parser α := fun ts => .error ⟨.unexpected ts.head?, ts.length⟩

/-- refuses the list of tokens if its first one is broken -/
def sound (ts : List Token) : Except Failure (List Token) :=
  match ts with
  | .broken d :: _ => .error ⟨.defect d, ts.length⟩
  | ts => .ok ts

def advance : Parser Unit := fun ts => (sound ts.tail).map ((), ·)

def following : Parser (Option Token) := fun ts => (sound ts.tail).map fun rest => (rest.head?, ts)

def isAt (p : Punct) : Parser Bool := return (← current) = some (.punct p)

/-- takes the punctuator if it is the current token, and says whether it was -/
def accept (p : Punct) : Parser Bool := do
  if ← isAt p then
    advance
    return true
  else return false

def expect (p : Punct) : Parser Unit := do
  unless ← accept p do refuse (.expected (.punct p) (← current))

def name : Parser String := do
  match ← current with
  | some (.name n) =>
    advance
    return n
  | t => refuse (.expected .name t)

/-- takes the keyword if it is the current token, and says whether it was -/
def acceptKeyword (k : String) : Parser Bool := do
  if (← current) = some (.name k) then
    advance
    return true
  else return false

def keyword (k : String) : Parser Unit := do
  unless ← acceptKeyword k do refuse (.expected (.keyword k) (← current))

/-- takes a description if there is one -/
def description : Parser Unit := do
  match ← current with
  | some (.string _) => advance
  | some (.block _) => advance
  | _ => return ()

/-- items until the closing punctuator, which is taken too -/
def upTo (close : Punct) (item : Parser α) (ts : List Token) : Except Failure (List α × List Token) :=
  if ts.head? = some (.punct close) then (sound ts.tail).map ([], ·)
  else
    match item ts with
    | .error e => .error e
    | .ok (a, rest) =>
      if rest.length < ts.length then (upTo close item rest).map fun (as, rest) => (a :: as, rest)
      else .error ⟨.unexpected ts.head?, ts.length⟩
termination_by ts.length

/-- items as long as the current token is the punctuator -/
def whileAt (p : Punct) (item : Parser α) (ts : List Token) : Except Failure (List α × List Token) :=
  if ts.head? = some (.punct p) then
    match item ts with
    | .error e => .error e
    | .ok (a, rest) =>
      if rest.length < ts.length then (whileAt p item rest).map fun (as, rest) => (a :: as, rest)
      else .error ⟨.unexpected ts.head?, ts.length⟩
  else .ok ([], ts)
termination_by ts.length

/-- items up to the end of the text -/
def upToEnd (item : Parser α) (ts : List Token) : Except Failure (List α) :=
  if ts = [] then .ok []
  else
    match item ts with
    | .error e => .error e
    | .ok (a, rest) =>
      if rest.length < ts.length then (upToEnd item rest).map (a :: ·)
      else .error ⟨.unexpected ts.head?, ts.length⟩
termination_by ts.length

/-- items between punctuators -/
def between (opening close : Punct) (item : Parser α) : Parser (List α) := do
  expect opening
  upTo close item

/-- one or more items between punctuators; the first is read without a look at the closing one -/
def someBetween (opening close : Punct) (item : Parser α) : Parser (List α) := do
  expect opening
  let a ← item
  let as ← upTo close item
  return a :: as

/-- one or more items between punctuators, or nothing at all -/
def optionalBetween (opening close : Punct) (item : Parser α) : Parser (List α) := do
  if ← isAt opening then someBetween opening close item else return []

/-- items with a punctuator between them, which may stand before the first too -/
def separated (p : Punct) (item : Parser α) : Parser (List α) := do
  let _ ← accept p
  let a ← item
  let as ← whileAt p (do advance; item)
  return a :: as

end Parser

end SchemaTypings.Sdl
