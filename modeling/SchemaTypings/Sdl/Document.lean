/-
Definitions and extensions of types, directives and schemas, and whole documents.

`document` reads the tokens of a text as definitions, `parse` does so for a text and finds line and column of a failure.
The result is well formed by its type: every record, member, argument and enum has a name, every type position a type.
-/
import SchemaTypings.Sdl.Executable
import SchemaTypings.Sdl.Lexeme

namespace SchemaTypings.Sdl

open SchemaTypings.Schema

namespace Parser

/-- definition of an argument, or of a member of an input object -/
def inputValue : Parser (Argument String) := do
  description
  let n ← name
  expect .colon
  let t ← typeRef levelLimit
  defaultValue
  let _ ← constantDirectives
  return ⟨n, t⟩

def field : Parser (Member String) := do
  description
  let n ← name
  let args ← optionalBetween .parenOpen .parenClose inputValue
  expect .colon
  let t ← typeRef levelLimit
  let _ ← constantDirectives
  return .field n t args

def inputField : Parser (Member String) := do
  let a ← inputValue
  return .input a.name a.type

/-- names after `implements`, if there are any; says whether there are -/
def interfaces : Parser Bool := do
  if ← acceptKeyword "implements" then
    let _ ← separated .ampersand name
    return true
  else return false

/-- members of a record of the kind, if there are any -/
def members : RecordKind → Parser (List (Member String))
  | .inputObject => optionalBetween .braceOpen .braceClose inputField
  | _ => optionalBetween .braceOpen .braceClose field

/-- whether the token has a value that no enum value may have -/
def isReserved : Option Token → Bool
  | some (.name n) => n = "true" || n = "false" || n = "null"
  | some (.string n) => n = "true" || n = "false" || n = "null"
  | some (.block n) => n = "true" || n = "false" || n = "null"
  | _ => false

def enumValue : Parser String := do
  description
  let t ← current
  let n ← if isReserved t then refuse (.reservedValue t) else name
  let _ ← constantDirectives
  return n

def enumValues : Parser (List String) := optionalBetween .braceOpen .braceClose enumValue

/-- types after an equals sign, if there are any -/
def unionMembers : Parser (List String) := do
  if ← accept .equal then separated .pipe name else return []

/-- an operation and the type it starts from -/
def operationType : Parser Unit := do
  let t ← current
  let n ← name
  if n = "query" ∨ n = "mutation" ∨ n = "subscription" then
    expect .colon
    let _ ← name
    return ()
  else refuseBack 1 (.unexpected t)

/-- places that a directive may be declared for -/
def directiveLocations : List String :=
  ["QUERY", "MUTATION", "SUBSCRIPTION", "FIELD", "FRAGMENT_DEFINITION", "FRAGMENT_SPREAD", "INLINE_FRAGMENT",
   "VARIABLE_DEFINITION", "FRAGMENT_VARIABLE_DEFINITION", "SCHEMA", "SCALAR", "OBJECT", "FIELD_DEFINITION",
   "ARGUMENT_DEFINITION", "INTERFACE", "UNION", "ENUM", "ENUM_VALUE", "INPUT_OBJECT", "INPUT_FIELD_DEFINITION",
   "DIRECTIVE_DEFINITION"]

/-- a place that a directive is declared for -/
def directiveLocation : Parser Unit := do
  let t ← current
  let n ← name
  if n ∈ directiveLocations then return () else refuseBack 1 (.unexpected t)

def recordKeyword : RecordKind → String
  | .object => "type"
  | .interface => "interface"
  | .inputObject => "input"

/-- names of interfaces, for the record kinds that have them -/
def interfacesOf : RecordKind → Parser Bool
  | .inputObject => pure false
  | _ => interfaces

def record (k : RecordKind) : Parser (Definition String) := do
  description
  keyword (recordKeyword k)
  let n ← name
  let _ ← interfacesOf k
  let _ ← constantDirectives
  let ms ← members k
  return .record k n ms

def enum : Parser (Definition String) := do
  description
  keyword "enum"
  let n ← name
  let _ ← constantDirectives
  let vs ← enumValues
  return .enum n vs

def scalar : Parser (Definition String) := do
  description
  keyword "scalar"
  let n ← name
  let _ ← constantDirectives
  return .other .scalarTypeDefinition n []

def union : Parser (Definition String) := do
  description
  keyword "union"
  let n ← name
  let _ ← constantDirectives
  let _ ← unionMembers
  return .other .unionTypeDefinition n []

def schema : Parser (Definition String) := do
  description
  keyword "schema"
  let _ ← constantDirectives
  let _ ← someBetween .braceOpen .braceClose operationType
  return .other .schemaDefinition none []

def directiveDefinition : Parser (Definition String) := do
  description
  keyword "directive"
  expect .atSign
  let n ← name
  let _ ← optionalBetween .parenOpen .parenClose inputValue
  let _ ← constantDirectives
  let _ ← acceptKeyword "repeatable"
  keyword "on"
  let _ ← separated .pipe directiveLocation
  return .other .directiveDefinition n []

/-- refuses an extension that adds nothing -/
def nonempty (adds : Bool) (d : Definition String) : Parser (Definition String) :=
  if adds then return d else unexpected

def recordExtension : RecordKind → OtherKind
  | .object => .objectTypeExtension
  | .interface => .interfaceTypeExtension
  | .inputObject => .inputObjectTypeExtension

def extendRecord (k : RecordKind) : Parser (Definition String) := do
  keyword "extend"
  keyword (recordKeyword k)
  let n ← name
  let is ← interfacesOf k
  let ds ← constantDirectives
  let ms ← members k
  nonempty (is || ds || !ms.isEmpty) (.other (recordExtension k) n (ms.map Member.name))

def extendEnum : Parser (Definition String) := do
  keyword "extend"
  keyword "enum"
  let n ← name
  let ds ← constantDirectives
  let vs ← enumValues
  nonempty (ds || !vs.isEmpty) (.other .enumTypeExtension n vs)

def extendScalar : Parser (Definition String) := do
  keyword "extend"
  keyword "scalar"
  let n ← name
  let ds ← constantDirectives
  nonempty ds (.other .scalarTypeExtension n [])

def extendUnion : Parser (Definition String) := do
  keyword "extend"
  keyword "union"
  let n ← name
  let ds ← constantDirectives
  let ts ← unionMembers
  nonempty (ds || !ts.isEmpty) (.other .unionTypeExtension n [])

def extendSchema : Parser (Definition String) := do
  keyword "extend"
  keyword "schema"
  let ds ← constantDirectives
  let os ← optionalBetween .braceOpen .braceClose operationType
  nonempty (ds || !os.isEmpty) (.other .schemaExtension none [])

def extendDirective : Parser (Definition String) := do
  keyword "extend"
  keyword "directive"
  expect .atSign
  let n ← name
  let ds ← constantDirectives
  nonempty ds (.other .directiveExtension n [])

/-- rule for the definition that a keyword starts -/
def definitionOf? : String → Option (Parser (Definition String))
  | "schema" => some schema
  | "scalar" => some scalar
  | "type" => some (record .object)
  | "interface" => some (record .interface)
  | "union" => some union
  | "enum" => some enum
  | "input" => some (record .inputObject)
  | "directive" => some directiveDefinition
  | "query" => some (operation "query")
  | "mutation" => some (operation "mutation")
  | "subscription" => some (operation "subscription")
  | "fragment" => some fragment
  | _ => none

/-- rule for the extension that a keyword after `extend` starts -/
def extensionOf? : String → Option (Parser (Definition String))
  | "schema" => some extendSchema
  | "scalar" => some extendScalar
  | "type" => some (extendRecord .object)
  | "interface" => some (extendRecord .interface)
  | "union" => some extendUnion
  | "enum" => some extendEnum
  | "input" => some (extendRecord .inputObject)
  | "directive" => some extendDirective
  | _ => none

/-- refuses the token after the current one -/
def unexpectedNext (t : Option Token) : Parser (Definition String) :=
  fun ts => .error ⟨.unexpected t, ts.length - 1⟩

def extension : Parser (Definition String) := do
  match ← following with
  | some (.name k) =>
    match extensionOf? k with
    | some rule => rule
    | none => unexpectedNext (some (.name k))
  | t => unexpectedNext t

/-- a definition with a description, whose keyword is the token after the current one -/
def describedDefinition : Parser (Definition String) := do
  match ← following with
  | some (.punct .braceOpen) => refuse .describedShorthand
  | some (.name k) =>
    match definitionOf? k with
    | some rule => rule
    | none => refuse .strayDescription
  | t => unexpectedNext t

/-- a definition or extension -/
def definition : Parser (Definition String) := do
  match ← current with
  | some (.punct .braceOpen) => shorthandOperation
  | some (.string _) => describedDefinition
  | some (.block _) => describedDefinition
  | some (.name k) =>
    match definitionOf? k with
    | some rule => rule
    | none => if k = "extend" then extension else unexpected
  | _ => unexpected

end Parser

/-- the definitions that a list of tokens writes, at least one -/
def document (ts : List Token) : Except Failure (List (Definition String)) :=
  match Parser.sound ts with
  | .error e => .error e
  | .ok [] => .error ⟨.unexpected none, 0⟩
  | .ok ts => Parser.upToEnd Parser.definition ts

def typeReference (ts : List Token) : Except Failure (TypeRef String) :=
  match Parser.sound ts with
  | .error e => .error e
  | .ok ts =>
    match Parser.typeRef Parser.levelLimit ts with
    | .error e => .error e
    | .ok (t, []) => .ok t
    | .ok (_, t :: rest) => .error ⟨.expected .endOfText (some t), rest.length + 1⟩

/-- a cause and the line and column of its place -/
structure SourceFault where
  cause : Cause
  position : Text.Position
  deriving DecidableEq, Repr

def SourceFault.message (f : SourceFault) : String := f.cause.message

/-- place of a failure, as the number of characters from it to the end of the text -/
def placeOf (ls : List Lexeme) (left : Nat) : Nat := ((ls.drop (ls.length - left)).map Lexeme.left).headD 0

/-- a failure with the line and column of its place in a text -/
def Failure.locate (text : List Char) (f : Failure) : SourceFault :=
  ⟨f.cause, Text.Line.locate text (text.length - placeOf (lex text) f.left)⟩

def parse (text : List Char) : Except SourceFault (List (Definition String)) :=
  (document (tokens text)).mapError (Failure.locate text)

def parseType (text : List Char) : Except SourceFault (TypeRef String) :=
  (typeReference (tokens text)).mapError (Failure.locate text)

end SchemaTypings.Sdl
