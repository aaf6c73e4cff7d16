/-
Why a YAML text has no value. Most faults have no text of their own; a breakdown has one, since the reading of the text breaks
off in it.

Nodes that are nested are read by calls within calls, for which there is room on a stack. How much there is depends on the
calls around them; `Stack` says it, and nothing is assumed of it but that one collection can be open.
-/
import SchemaTypings.Outcome
import SchemaTypings.Text.LowerCase
import SchemaTypings.Text.Quotation

namespace SchemaTypings.Yaml

open SchemaTypings.Text

/-- how the reading of a text breaks off -/
inductive Breakdown where
  /-- an escape writes a number of more than 31 bits -/
  | hugeCodePoint
  /-- a word, given in lower case, that is no truth value -/
  | unknownTruth (word : List Nat)
  /-- a number without any digit -/
  | emptyNumber
  /-- a text that is no timestamp -/
  | noTimestamp
  /-- a timestamp that is the default value of a mapping -/
  | timestampOfMapping
  /-- a real number in base sixty with so many places that the first has no value -/
  | tooManyPlaces
  /-- more calls within calls than there is room for -/
  | fullStack
  deriving DecidableEq, Repr

def Breakdown.message : Breakdown → String
  | .hugeCodePoint => "Python int too large to convert to C int"
  | .unknownTruth word => quoteCodes word
  | .emptyNumber => "string index out of range"
  | .noTimestamp => "'NoneType' object has no attribute 'groupdict'"
  | .timestampOfMapping => "expected string or bytes-like object, got 'list'"
  | .tooManyPlaces => "int too large to convert to float"
  | .fullStack => "maximum recursion depth exceeded"

inductive Fault where
  | illFormed
  | breakdown (b : Breakdown)
  deriving DecidableEq, Repr

/-- room on the stack of calls -/
class Stack where
  /-- how many collections may be open -/
  nesting : Nat
  /-- how many mappings may be merged, one into the other -/
  merging : Nat
  /-- how many mappings may lead on to the default value of another -/
  defaulting : Nat
  nesting_pos : 0 < nesting

/-- the room of a run that nothing but the program is around -/
instance : Stack := ⟨494, 980, 980, by decide⟩

/-- a value that is there, else the fault of an ill-formed text -/
def expect {α : Type} : Option α → Except Fault α
  | some a => .ok a
  | none => .error .illFormed

end SchemaTypings.Yaml
