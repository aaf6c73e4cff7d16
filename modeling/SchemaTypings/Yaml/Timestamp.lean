/-
Dates and times as plain scalars write them. A line end after one does not count.
-/
import SchemaTypings.Text.CodePoint
import SchemaTypings.Text.Line

namespace SchemaTypings.Yaml

open SchemaTypings.Text

/-- a date, or a date and a time; numbers as they are written -/
structure Timestamp where
  year : Nat
  month : Nat
  day : Nat
  /-- hour, minute and second, and hour and minute of the offset -/
  time : Option (Nat × Nat × Nat × Nat × Nat)
  /-- whether month and day have two digits -/
  padded : Bool
  deriving DecidableEq, Repr

namespace Timestamp

/-- a number of at least `least` and at most `most` digits -/
def readNumber? (least most : Nat) (cs : List Char) : Option (Nat × List Char) :=
  let ds := (cs.take most).takeWhile isDigit
  if ds.length < least then none
  else some (ds.foldl (fun n d => 10 * n + (d.toNat - '0'.toNat)) 0, cs.drop ds.length)

/-- the text after a character that it starts with -/
def after? (c : Char) : List Char → Option (List Char)
  | d :: cs => if d = c then some cs else none
  | [] => none

/-- blanks between date and time, and before an offset -/
def isBlank (c : Char) : Bool := c = ' ' || c = '\t'

/-- an offset from world time, nothing being none -/
def readOffset? (cs : List Char) : Option (Nat × Nat) :=
  match cs with
  | [] => some (0, 0)
  | cs =>
    match cs.dropWhile isBlank with
    | ['Z'] => some (0, 0)
    | c :: rest =>
      if c = '+' ∨ c = '-' then do
        let (h, rest) ← readNumber? 1 2 rest
        match rest with
        | [] => some (h, 0)
        | rest => do
          let rest ← after? ':' rest
          let (m, rest) ← readNumber? 2 2 rest
          if rest = [] then some (h, m) else none
      else none
    | [] => none

/-- a time with its fraction and offset -/
def readTime? (cs : List Char) : Option (Nat × Nat × Nat × Nat × Nat) := do
  let (h, rest) ← readNumber? 1 2 cs
  let rest ← after? ':' rest
  let (m, rest) ← readNumber? 2 2 rest
  let rest ← after? ':' rest
  let (s, rest) ← readNumber? 2 2 rest
  let rest := match rest with
    | '.' :: rest => rest.dropWhile isDigit
    | rest => rest
  let (oh, om) ← readOffset? rest
  return (h, m, s, oh, om)

/-- a text as a date or a date and a time -/
def read? (cs : List Char) : Option Timestamp := do
  let (year, rest) ← readNumber? 4 4 (Line.withoutFinal cs)
  let rest₁ ← after? '-' rest
  let (month, rest₂) ← readNumber? 1 2 rest₁
  let rest₃ ← after? '-' rest₂
  let (day, rest₄) ← readNumber? 1 2 rest₃
  let padded := rest₁.length = rest₂.length + 2 && rest₃.length = rest₄.length + 2
  match rest₄ with
  | [] => return ⟨year, month, day, none, padded⟩
  | c :: rest =>
    if c = 'T' ∨ c = 't' then return ⟨year, month, day, some (← readTime? rest), padded⟩
    else if isBlank c then return ⟨year, month, day, some (← readTime? (rest.dropWhile isBlank)), padded⟩
    else none

/-- whether a plain scalar is taken for a timestamp: a date alone has to be padded -/
def isTimestamp (cs : List Char) : Bool :=
  match read? cs with
  | none => false
  | some t => t.padded || t.time.isSome

def daysIn (year month : Nat) : Nat :=
  if month = 2 then if year % 4 = 0 ∧ (year % 100 ≠ 0 ∨ year % 400 = 0) then 29 else 28
  else if month = 4 ∨ month = 6 ∨ month = 9 ∨ month = 11 then 30
  else 31

/-- whether there is such a date and time; the offset is less than a day -/
def isValid (t : Timestamp) : Bool :=
  1 ≤ t.year && 1 ≤ t.month && t.month ≤ 12 && 1 ≤ t.day && t.day ≤ daysIn t.year t.month &&
    t.time.all fun (h, m, s, oh, om) => h < 24 && m < 60 && s < 60 && 60 * oh + om < 1440

end Timestamp

end SchemaTypings.Yaml
