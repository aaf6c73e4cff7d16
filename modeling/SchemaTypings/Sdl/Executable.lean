/-
Operations and fragments. They have no declaration; only their kinds and names are kept.
-/
import SchemaTypings.Sdl.Value

namespace SchemaTypings.Sdl.Parser

open SchemaTypings.Schema

/-- what follows the dots of a fragment in a selection, given the rule for nested selections -/
def fragmentSelection (levels : Nat) (selections : Parser Unit) : Parser Unit := do
  if ← acceptKeyword "on" then
    let _ ← name
    let _ ← directives false levels
    selections
  else
    match ← current with
    | some (.name _) =>
      let _ ← name
      let _ ← directives false levels
      return ()
    | _ =>
      let _ ← directives false levels
      selections

/-- a field of a selection with its alias, arguments and directives, given the rule for nested selections -/
def fieldSelection (levels : Nat) (selections : Parser Unit) : Parser Unit := do
  let _ ← name
  if ← accept .colon then
    let _ ← name
  arguments false levels
  let _ ← directives false levels
  if ← isAt .braceOpen then selections

/-- a selection, given the rule for nested selections -/
def selection (levels : Nat) (selections : Parser Unit) : Parser Unit := do
  if ← accept .spread then fragmentSelection levels selections else fieldSelection levels selections

/-- selections in braces; their level is entered before the brace is taken -/
def selectionSet : (levels : Nat) → Parser Unit
  | 0 => refuse .tooDeep
  | levels + 1 => do
    let _ ← between .braceOpen .braceClose (selection levels (selectionSet levels))
    return ()

def variableDefinition : Parser Unit := do
  description
  expect .dollar
  let _ ← name
  expect .colon
  let _ ← typeRef levelLimit
  defaultValue
  let _ ← constantDirectives
  return ()

/-- an operation without a keyword -/
def shorthandOperation : Parser (Definition String) := do
  selectionSet levelLimit
  return .other .operationDefinition none []

def operation (k : String) : Parser (Definition String) := do
  description
  keyword k
  let n ← match ← current with
    | some (.name _) => some <$> name
    | _ => pure none
  let _ ← optionalBetween .parenOpen .parenClose variableDefinition
  let _ ← directives false levelLimit
  selectionSet levelLimit
  return .other .operationDefinition n []

/-- name of a fragment, which is not `on` -/
def fragmentName : Parser String := do
  let t ← current
  if t = some (.name "on") ∨ t = some (.string "on") ∨ t = some (.block "on") then unexpected else name

def fragment : Parser (Definition String) := do
  description
  keyword "fragment"
  let n ← fragmentName
  keyword "on"
  let _ ← name
  let _ ← directives false levelLimit
  selectionSet levelLimit
  return .other .fragmentDefinition n []

end SchemaTypings.Sdl.Parser
