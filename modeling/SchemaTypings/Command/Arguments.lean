/-
Arguments of the command line. Options may stand anywhere after the command, with their value behind an equals sign or as the
next argument; a double dash ends them. Of an option that is given twice the last value counts.
-/
import SchemaTypings.Text.Str

namespace SchemaTypings.Command

/-- what the command line asks for -/
inductive Invocation where
  | version
  | generate (schema : String) (out config : Option String) (context header : Option Text.Str) (verbose : Bool)
  | publish (out : String) (pretty : Bool)
  deriving DecidableEq, Repr

/-- options of a command: those with a value, those without, and single letters that stand for one without -/
structure Options where
  valued : List String
  flags : List String
  letters : List (Char × String)

/-- an argument that has been told apart -/
inductive Item where
  | operand (text : String)
  | option (name value : String)
  | flag (name : String)
  deriving DecidableEq, Repr

/-- an argument up to its first equals sign, and what follows the sign -/
def splitOption (arg : String) : String × Option String :=
  let cs := arg.toList
  match cs.dropWhile (· ≠ '=') with
  | [] => (arg, none)
  | _ :: value => (String.ofList (cs.takeWhile (· ≠ '=')), some (String.ofList value))

/-- flags of the letters after a single dash -/
def letterFlags? (o : Options) (letters : List Char) : Option (List Item) :=
  letters.mapM fun c => (o.letters.lookup c).map .flag

def isOption (arg : String) : Bool := arg.toList.head? = some '-' && 1 < arg.length

/-- the arguments told apart, none if one of them is no option of the command or lacks its value -/
def items? (o : Options) : List String → Option (List Item)
  | [] => some []
  | arg :: rest =>
    if arg = "--" then some (rest.map .operand)
    else if isOption arg then
      let (name, value) := splitOption arg
      if o.valued.contains name then
        match value with
        | some v => (items? o rest).map (.option name v :: ·)
        | none =>
          match rest with
          | [] => none
          | v :: rest => (items? o rest).map (.option name v :: ·)
      else if o.flags.contains name then
        if value.isSome then none else (items? o rest).map (.flag name :: ·)
      else if arg.toList.take 2 = ['-', '-'] then none
      else do
        let flags ← letterFlags? o (arg.toList.drop 1)
        let more ← items? o rest
        return flags ++ more
    else (items? o rest).map (.operand arg :: ·)

def operands (is : List Item) : List String :=
  is.filterMap fun
    | .operand t => some t
    | _ => none

def lastValue? (name : String) (is : List Item) : Option String :=
  (is.filterMap fun
    | .option n v => if n = name then some v else none
    | _ => none).getLast?

def lastFlag? (names : List String) (is : List Item) : Option String :=
  (is.filterMap fun
    | .flag n => if names.contains n then some n else none
    | _ => none).getLast?

def generateOptions : Options := ⟨["--config", "--context", "--header"], ["--verbose"], [('v', "--verbose")]⟩

def publishOptions : Options := ⟨[], ["--pretty", "--no-pretty"], []⟩

def version? (args : List String) : Option Invocation := do
  let is ← items? ⟨[], [], []⟩ args
  if operands is = [] then some .version else none

def generate? (args : List String) : Option Invocation := do
  let is ← items? generateOptions args
  let invocation := fun schema out =>
    Invocation.generate schema out (lastValue? "--config" is) ((lastValue? "--context" is).map .text)
      ((lastValue? "--header" is).map .text) (lastFlag? ["--verbose"] is).isSome
  match operands is with
  | [schema] => some (invocation schema none)
  | [schema, out] => some (invocation schema (some out))
  | _ => none

def publish? (args : List String) : Option Invocation := do
  let is ← items? publishOptions args
  match operands is with
  | [out] => some (.publish out (lastFlag? ["--pretty", "--no-pretty"] is ≠ some "--no-pretty"))
  | _ => none

/-- what a command and its arguments ask for -/
def command? (args : List String) : Option Invocation :=
  match args with
  | "version" :: rest => version? rest
  | "generate" :: rest => generate? rest
  | "config-schema" :: rest => publish? rest
  | _ => none

/-- what the arguments ask for, none if that is not clear -/
def Invocation.ofArguments? (args : List String) : Option Invocation :=
  match args with
  | "--" :: rest => command? rest
  | args => command? args

end SchemaTypings.Command
