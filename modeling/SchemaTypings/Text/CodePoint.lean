/-
Characters by number: hexadecimal digits, the character of a code point, sets of code points, and surrogates: in pairs they
stand for one character, half of a pair is a piece of a text that is none. `Piece.ofCode_code` says that the number of a piece
gives it back, and `characters_pieces` that the pieces of a text do.
-/

namespace SchemaTypings.Text

def isDigit (c : Char) : Bool := '0' ≤ c && c ≤ '9'

/-- value of a digit of a base up to sixteen -/
def digitValue? (base : Nat) (c : Char) : Option Nat :=
  let v :=
    if isDigit c then c.toNat - '0'.toNat
    else if 'a' ≤ c ∧ c ≤ 'f' then c.toNat - 'a'.toNat + 10
    else if 'A' ≤ c ∧ c ≤ 'F' then c.toNat - 'A'.toNat + 10
    else base
  if v < base then some v else none

def decimal (ds : List Char) : Nat := ds.foldl (fun n d => 10 * n + (d.toNat - '0'.toNat)) 0

/-- most decimal digits of an integer that is made of its text -/
def digitLimit : Nat := 4300

def hexDigit? (c : Char) : Option Nat := digitValue? 16 c

/-- the number that hexadecimal digits write, most significant digit first -/
def hexNumber? (cs : List Char) : Option Nat :=
  cs.foldlM (fun n c => (hexDigit? c).map (16 * n + ·)) 0

/-- the character of a code point; surrogates and numbers above the last code point have none -/
def scalar? (n : Nat) : Option Char := if n.isValidChar then some (Char.ofNat n) else none

/-- first halves of a pair of surrogates -/
def isHighSurrogate (n : Nat) : Bool := 0xD800 ≤ n && n ≤ 0xDBFF

/-- second halves of a pair of surrogates -/
def isLowSurrogate (n : Nat) : Bool := 0xDC00 ≤ n && n ≤ 0xDFFF

def joinSurrogates (high low : Nat) : Nat := 0x10000 + (high - 0xD800) * 0x400 + (low - 0xDC00)

def splitSurrogates (n : Nat) : Nat × Nat := (0xD800 + (n - 0x10000) / 0x400, 0xDC00 + (n - 0x10000) % 0x400)

/-- halves of pairs, by their numbers; no character has one of these -/
abbrev Surrogate := { n : Nat // 0xD800 ≤ n ∧ n ≤ 0xDFFF }

/-- pieces that escapes of a format may write: a character, or half of a pair of surrogates -/
inductive Piece where
  | character (c : Char)
  | half (n : Surrogate)
  deriving DecidableEq, Repr

def Piece.code : Piece → Nat
  | .character c => c.toNat
  | .half n => n

/-- the piece with a number, which is not above the last code point -/
def Piece.ofCode (n : Nat) : Piece :=
  if h : 0xD800 ≤ n ∧ n ≤ 0xDFFF then .half ⟨n, h⟩ else .character (Char.ofNat n)

@[simp]
theorem Piece.ofCode_toNat (c : Char) : ofCode c.toNat = .character c := by
  have hvalid : c.toNat.isValidChar := c.valid
  have hc : ¬(0xD800 ≤ c.toNat ∧ c.toNat ≤ 0xDFFF) := by
    simp only [Nat.isValidChar] at hvalid
    omega
  rw [ofCode, dif_neg hc, Char.ofNat_toNat]

@[simp]
theorem Piece.ofCode_code (p : Piece) : ofCode p.code = p := by
  cases p with
  | character c => exact ofCode_toNat c
  | half n => exact dif_pos n.property

/-- a text in pieces -/
def pieces (cs : List Char) : List Piece := cs.map .character

/-- the text that pieces are, none if there is half of a pair among them -/
def characters? : List Piece → Option (List Char)
  | [] => some []
  | .character c :: ps => (characters? ps).map (c :: ·)
  | .half _ :: _ => none

@[simp]
theorem characters_pieces (cs : List Char) : characters? (pieces cs) = some cs := by
  induction cs with
  | nil => rfl
  | cons c cs ih =>
    unfold pieces at ih ⊢
    simp [characters?, ih]

/-- whether a number is in one of the ranges, each given by its first and its last number -/
def isAmong (ranges : List (Nat × Nat)) (n : Nat) : Bool := ranges.any fun (a, b) => a ≤ n && n ≤ b

/-- exactly `width` hexadecimal digits or more, with zeros before the number; `upper` chooses the letters -/
def hexPadded (upper : Bool) (width n : Nat) : List Char :=
  let ds := Nat.toDigits 16 n
  List.replicate (width - ds.length) '0' ++ if upper then ds.map Char.toUpper else ds

end SchemaTypings.Text
