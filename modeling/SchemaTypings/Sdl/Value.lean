/-
Types, values, arguments and directives. Types are kept; values, arguments and directives are only recognised, since no
declaration depends on them.

List types, list values and object values may be nested up to a limit: `levels` is the number of levels that may still be
entered.
-/
import SchemaTypings.Schema.Definition
import SchemaTypings.Sdl.Parser

namespace SchemaTypings.Sdl.Parser

open SchemaTypings.Schema

/-- how many levels of lists, objects and selections a document may have -/
def levelLimit : Nat := 200

/-- a type, given what stands in the brackets of a list type; a mark that it is never null is written once -/
def typeWith (item : Parser (TypeRef String)) : Parser (TypeRef String) := do
  let t ←
    if ← accept .bracketOpen then do
      let t ← item
      expect .bracketClose
      pure (TypeRef.list t)
    else do
      let n ← name
      pure (TypeRef.leaf n)
  if ← accept .bang then return .nonNull t else return t

/-- a type; the bracket of a list type is taken before its level is entered -/
def typeRef : (levels : Nat) → Parser (TypeRef String)
  | 0 => typeWith (refuse .tooDeep)
  | levels + 1 => typeWith (typeRef levels)

/-- a variable; in a constant value it is refused at its sign, by name if it has one -/
def variableValue (constant : Bool) : Parser Unit := do
  advance
  if constant then
    match ← current with
    | some (.name n) => refuseBack 1 (.constantVariable n)
    | _ => refuseBack 1 (.unexpected (some (.punct .dollar)))
  else do
    let _ ← name
    return ()

/-- a value, given the rule for a nested list or object -/
def valueWith (constant : Bool) (nested : Parser Unit) : Parser Unit := do
  match ← current with
  | some (.punct .bracketOpen) => nested
  | some (.punct .braceOpen) => nested
  | some (.punct .dollar) => variableValue constant
  | some (.int _) => advance
  | some (.float _) => advance
  | some (.string _) => advance
  | some (.block _) => advance
  | some (.name _) => advance
  | _ => unexpected

/-- a list of values or an object, given the rule for its values -/
def collection (item : Parser Unit) : Parser Unit := do
  if ← isAt .bracketOpen then
    let _ ← between .bracketOpen .bracketClose item
    return ()
  else
    let _ ← between .braceOpen .braceClose do
      let _ ← name
      expect .colon
      item
    return ()

/-- a value; the level of a list or object is entered before its bracket is taken -/
def value (constant : Bool) : (levels : Nat) → Parser Unit
  | 0 => valueWith constant (refuse .tooDeep)
  | levels + 1 => valueWith constant (collection (value constant levels))

/-- arguments in parentheses, if there are any -/
def arguments (constant : Bool) (levels : Nat) : Parser Unit := do
  let _ ← optionalBetween .parenOpen .parenClose do
    let _ ← name
    expect .colon
    value constant levels
  return ()

def directive (constant : Bool) (levels : Nat) : Parser Unit := do
  expect .atSign
  let _ ← name
  arguments constant levels

/-- directives; says whether there are any -/
def directives (constant : Bool) (levels : Nat) : Parser Bool := do
  let ds ← whileAt .atSign (directive constant levels)
  return !ds.isEmpty

def constantDirectives : Parser Bool := directives true levelLimit

def defaultValue : Parser Unit := do
  if ← accept .equal then value true levelLimit

end SchemaTypings.Sdl.Parser
