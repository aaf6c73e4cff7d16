/-
Numbers as plain scalars write them: which texts are taken for an integer or a real number, and the integer that a text
stands for. Integers may be written in base two, eight, ten or sixteen, or in base sixty with colons. A text that is tagged as
a number may have digits and blanks beyond ASCII.
-/
import SchemaTypings.Text.Decimal

namespace SchemaTypings.Yaml.Number

open SchemaTypings.Text

def isDigitOrGap (c : Char) : Bool := isDigit c || c = '_'

def dropSign (cs : List Char) : List Char :=
  match cs with
  | c :: rest => if c = '+' ∨ c = '-' then rest else c :: rest
  | [] => []

/-- whether a piece between colons is a number below sixty of one or two digits -/
def isSixtieth : List Char → Bool
  | [d] => isDigit d
  | [a, b] => '0' ≤ a && a ≤ '5' && isDigit b
  | _ => false

/-- one or more characters of a class -/
def isRun (p : Char → Bool) (cs : List Char) : Bool := !cs.isEmpty && cs.all p

/-- whether the text is an integer without its sign -/
def isWhole (cs : List Char) : Bool :=
  match cs with
  | ['0'] => true
  | '0' :: 'b' :: ds => isRun (fun c => c = '0' || c = '1' || c = '_') ds
  | '0' :: 'x' :: ds => isRun (fun c => (hexDigit? c).isSome || c = '_') ds
  | '0' :: ds => ds.all fun c => ('0' ≤ c && c ≤ '7') || c = '_'
  | c :: _ =>
    '1' ≤ c && c ≤ '9' &&
      match cs.splitOn ':' with
      | first :: more => first.all isDigitOrGap && more.all isSixtieth
      | [] => false
  | [] => false

/-- whether the text is taken for an integer -/
def isInteger (cs : List Char) : Bool := isWhole (dropSign cs)

/-- whether the text is an exponent with its sign, or nothing -/
def isExponent (cs : List Char) : Bool :=
  match cs with
  | [] => true
  | e :: s :: ds => (e = 'e' || e = 'E') && (s = '+' || s = '-') && isRun isDigit ds
  | _ => false

/-- whether the text is a fraction without whole part, and perhaps an exponent -/
def isFraction (cs : List Char) : Bool :=
  match cs with
  | '.' :: d :: rest => isDigit d && isExponent (rest.dropWhile isDigitOrGap)
  | _ => false

/-- whether the text is a whole part in base ten or sixty with a dot and perhaps a fraction, without its sign -/
def isPointed (cs : List Char) : Bool :=
  cs.head?.any isDigit &&
    match (cs.takeWhile (· ≠ '.')).splitOn ':', cs.dropWhile (· ≠ '.') with
    | first :: more, '.' :: after =>
      first.all isDigitOrGap && more.all isSixtieth &&
        (let rest := after.dropWhile isDigitOrGap
          if more.isEmpty then isExponent rest else rest.isEmpty)
    | _, _ => false

/-- whether the text is taken for a real number -/
def isReal (cs : List Char) : Bool :=
  isPointed (dropSign cs) || isFraction cs
    || [".inf", ".Inf", ".INF"].any (·.toList = dropSign cs) || [".nan", ".NaN", ".NAN"].any (·.toList = cs)

def isPadding (c : Char) : Bool := c = ' ' || ('\t' ≤ c && c ≤ '\x0d')

/-- the text without blanks around it -/
def strip (cs : List Char) : List Char := ((cs.dropWhile isPadding).reverse.dropWhile isPadding).reverse

/-- the text in ASCII, blanks around it left out -/
def numerals (cs : List Char) : List Char := strip (cs.map numeral)

def withoutGaps (cs : List Char) : List Char := cs.filter (· ≠ '_')

/-- the number that digits of a base write, at least one -/
def digits? (base : Nat) (cs : List Char) : Option Nat :=
  if cs = [] ∨ (base = 10 ∧ digitLimit < cs.length) then none
  else cs.foldlM (fun n c => (digitValue? base c).map (base * n + ·)) 0

/-- letter that may stand after a zero before the digits of a base -/
def baseLetter (base : Nat) (c : Char) : Bool :=
  match base with
  | 2 => c = 'b' || c = 'B'
  | 8 => c = 'o' || c = 'O'
  | 16 => c = 'x' || c = 'X'
  | _ => false

/-- an integer of a base with sign and mark of the base, blanks around it left out -/
def integerOf? (base : Nat) (cs : List Char) : Option Int :=
  let cs := numerals cs
  let body := dropSign cs
  let body :=
    match body with
    | '0' :: c :: rest => if baseLetter base c then rest else body
    | _ => body
  (digits? base body).map fun n => if cs.head? = some '-' then -(n : Int) else n

/-- the integer that a text stands for, underscores left out -/
def integer? (cs : List Char) : Option Int :=
  let cs := withoutGaps cs
  let sign : Int := if cs.head? = some '-' then -1 else 1
  (match dropSign cs with
    | [] => none
    | ['0'] => some 0
    | '0' :: 'b' :: ds => integerOf? 2 ds
    | '0' :: 'x' :: ds => integerOf? 16 ds
    | '0' :: ds => integerOf? 8 ('0' :: ds)
    | ds =>
      (ds.splitOn ':').foldlM (fun n p => (integerOf? 10 p).map (60 * n + ·)) 0).map (sign * ·)

/-- whether the text is a decimal number with optional fraction and exponent -/
def isDecimal (cs : List Char) : Bool :=
  let whole := cs.takeWhile isDigit
  let rest := cs.dropWhile isDigit
  let (fraction, rest) :=
    match rest with
    | '.' :: rest => (rest.takeWhile isDigit, rest.dropWhile isDigit)
    | rest => ([], rest)
  !(whole ++ fraction).isEmpty &&
    match rest with
    | [] => true
    | e :: rest => (e = 'e' || e = 'E') && isRun isDigit (dropSign rest)

/-- whether the text, blanks around it left out, is a decimal number or names one that is not finite -/
def isFloat (cs : List Char) : Bool :=
  let body := dropSign (numerals cs)
  isDecimal body || ["inf", "infinity", "nan"].any (·.toList = body)

/-- most places that a real number in base sixty may have -/
def placeLimit : Nat := 174

/-- places of a real number in base sixty, underscores and sign left out; none if the text is no real number -/
def realPlaces? (cs : List Char) : Option Nat :=
  let body := dropSign ((withoutGaps cs).map Char.toLower)
  if body = ".inf".toList ∨ body = ".nan".toList then some 1
  else
    let places := body.splitOn ':'
    if places.all isFloat then some places.length else none

end SchemaTypings.Yaml.Number
