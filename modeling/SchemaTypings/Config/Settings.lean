/-
The settings of a generation and their validation.

`Settings.ofEntries` accepts entries exactly if every key is a field, every value a string (or bytes that are the UTF-8 form of
a text), and the context a text that is not empty. Otherwise it lists one problem for each offending key: the fields in their
order, then the unknown keys in theirs. `Settings.override` puts the values that are not null over the fields and validates
again; one key is reserved for the settings that are overridden.
-/
import SchemaTypings.Config.Value
import SchemaTypings.Entries

namespace SchemaTypings.Config

open SchemaTypings.Text

/-- settings of a generation; the context type has a name. The header and the indent are texts, or for `Settings Str` strings:
their lengths are not limited, so that nothing has to make sure that they are texts -/
structure Settings (τ : Type := String) where
  context : String
  header : τ
  indent : τ
  context_ne : context ≠ ""
  deriving DecidableEq, Repr

inductive Refusal where
  | notText
  | notUnicode
  | tooShort
  | unknownKey
  deriving DecidableEq, Repr

/-- a key and why its value is refused -/
structure Problem where
  key : String
  refusal : Refusal
  deriving DecidableEq, Repr

inductive OverrideFault where
  | reservedKey
  | keyNotUnicode
  | invalid (problems : List Problem)
  deriving DecidableEq, Repr

def Refusal.code : Refusal → String
  | .notText => "string_type"
  | .notUnicode => "string_unicode"
  | .tooShort => "string_too_short"
  | .unknownKey => "extra_forbidden"

def Refusal.message : Refusal → String
  | .notText => "Input should be a valid string"
  | .notUnicode => "Input should be a valid string, unable to parse raw data as a unicode string"
  | .tooShort => "String should have at least 1 character"
  | .unknownKey => "Extra inputs are not permitted"

/-- the text that bytes are the UTF-8 form of -/
def decodeUtf8? (data : List UInt8) : Option String := String.fromUTF8? ⟨data.toArray⟩

def Value.str? : Value → Except Refusal Str
  | .text s => .ok (.text s)
  | .unpaired u => .ok (.unpaired u)
  | .bytes data =>
    match decodeUtf8? data with
    | some s => .ok (.text s)
    | none => .error .notUnicode
  | .other _ => .error .notText

namespace Settings

/-- keys of the fields -/
def contextKey : String := "context"
def headerKey : String := "header"
def indentKey : String := "indent"

def defaultContext : String := "Request"

def defaultHeader : String := "import \x7b Request \x7d from 'express';\n"

def defaultIndent : String := "\t"

def default : Settings := ⟨defaultContext, defaultHeader, defaultIndent, by decide⟩

instance : Inhabited Settings := ⟨default⟩

def strings (s : Settings) : Settings Str := ⟨s.context, .text s.header, .text s.indent, s.context_ne⟩

/-- the string of a field: of its value if there is one, else the default -/
def field (es : Entries Value) (key fallback : String) : Except Refusal Str :=
  match es.get? key with
  | none => .ok (.text fallback)
  | some v => v.str?

/-- the context type, which has to be a text that is not empty -/
def contextField (es : Entries Value) : Except Refusal { s : String // s ≠ "" } :=
  match field es contextKey defaultContext with
  | .error r => .error r
  | .ok (.unpaired _) => .error .notUnicode
  | .ok (.text s) => if h : s = "" then .error .tooShort else .ok ⟨s, h⟩

def problemOf {α : Type} (key : String) : Except Refusal α → List Problem
  | .ok _ => []
  | .error r => [⟨key, r⟩]

/-- problems of the keys that are no fields -/
def unknownKeys (es : Entries Value) : List Problem :=
  (es.filter fun e => e.1 ≠ contextKey ∧ e.1 ≠ headerKey ∧ e.1 ≠ indentKey).map fun e => ⟨e.1, .unknownKey⟩

def problems (es : Entries Value) : List Problem :=
  problemOf contextKey (contextField es) ++ problemOf headerKey (field es headerKey defaultHeader)
    ++ problemOf indentKey (field es indentKey defaultIndent) ++ unknownKeys es

/-- the settings of entries, or all their problems -/
def ofEntries (es : Entries Value) : Except (List Problem) (Settings Str) :=
  match contextField es, field es headerKey defaultHeader, field es indentKey defaultIndent, unknownKeys es with
  | .ok c, .ok h, .ok i, [] => .ok ⟨c.val, h, i, c.property⟩
  | _, _, _, _ => .error (problems es)

def entries (s : Settings Str) : Entries Value :=
  [(contextKey, .text s.context), (headerKey, .ofStr s.header), (indentKey, .ofStr s.indent)]

/-- key of the settings themselves, which no override may have -/
def reservedKey : String := "self"

/-- the values that are put over settings: null leaves a field as it is -/
def values (new : Entries Value Str) : Entries Value Str := new.filter fun e => !e.2.isNull

/-- entries by the texts of their keys, none if one of them is no text -/
def textKeyed? (es : Entries Value Str) : Option (Entries Value) :=
  es.mapM fun (k, v) =>
    match k with
    | .text k => some (k, v)
    | .unpaired _ => none

def override (s : Settings Str) (new : Entries Value Str) : Except OverrideFault (Settings Str) :=
  if (new.get? (.text reservedKey)).isSome then .error .reservedKey
  else
    match textKeyed? (values new) with
    | none => .error .keyNotUnicode
    | some new => (ofEntries (s.entries.update new)).mapError .invalid

end Settings

end SchemaTypings.Config
