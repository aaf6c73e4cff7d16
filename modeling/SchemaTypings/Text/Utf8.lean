/-
Where bytes are no UTF-8, and where strings have none. A first byte asks for a number of continuation bytes, the first of which
has a range of its own; the bytes of a character that breaks off are the place of the fault. Halves of pairs of surrogates have
no bytes, so that each string that is no text has a fault (`Unpaired.fault`).
-/
import SchemaTypings.Text.Str

namespace SchemaTypings.Text

inductive DecodingReason where
  | start
  | continuation
  | ending
  deriving DecidableEq, Repr

/-- bytes that are no UTF-8: the first of them, how many they are, and where they are -/
structure DecodingFault where
  byte : UInt8
  place : Nat
  length : Nat
  reason : DecodingReason
  deriving DecidableEq, Repr

namespace DecodingFault

def reasonText : DecodingReason → String
  | .start => "invalid start byte"
  | .continuation => "invalid continuation byte"
  | .ending => "unexpected end of data"

def message (f : DecodingFault) : String :=
  "'utf-8' codec can't decode "
    ++ (if f.length = 1 then "byte 0x" ++ String.ofList (hexPadded false 2 f.byte.toNat) ++ " in position " ++ toString f.place
      else "bytes in position " ++ toString f.place ++ "-" ++ toString (f.place + f.length - 1))
    ++ ": " ++ reasonText f.reason

end DecodingFault

/-- continuation bytes that a first byte asks for, and the range of the first of them -/
def continuation? (b : UInt8) : Option (Nat × UInt8 × UInt8) :=
  if b ≤ 0x7F then some (0, 0x80, 0xBF)
  else if 0xC2 ≤ b ∧ b ≤ 0xDF then some (1, 0x80, 0xBF)
  else if b = 0xE0 then some (2, 0xA0, 0xBF)
  else if b = 0xED then some (2, 0x80, 0x9F)
  else if 0xE1 ≤ b ∧ b ≤ 0xEF then some (2, 0x80, 0xBF)
  else if b = 0xF0 then some (3, 0x90, 0xBF)
  else if b = 0xF4 then some (3, 0x80, 0x8F)
  else if 0xF1 ≤ b ∧ b ≤ 0xF3 then some (3, 0x80, 0xBF)
  else none

/-- the character that is being read: its first byte and its place, bytes read, and bytes owed with the range of the next -/
structure Unfinished where
  byte : UInt8
  place : Nat
  length : Nat
  owed : Nat
  low : UInt8
  high : UInt8

/-- the fault of a character that is not finished -/
def Unfinished.fault (u : Unfinished) (r : DecodingReason) : DecodingFault := ⟨u.byte, u.place, u.length, r⟩

/-- the first fault of bytes, within a character or between two of them at a place -/
def decodingFaultFrom? (place : Nat) (u : Option Unfinished) : List UInt8 → Option DecodingFault
  | [] => u.map (·.fault .ending)
  | b :: bs =>
    match u with
    | none =>
      match continuation? b with
      | none => some ⟨b, place, 1, .start⟩
      | some (0, _, _) => decodingFaultFrom? (place + 1) none bs
      | some (owed, low, high) => decodingFaultFrom? (place + 1) (some ⟨b, place, 1, owed, low, high⟩) bs
    | some u =>
      if u.low ≤ b ∧ b ≤ u.high then
        let next := { u with length := u.length + 1, owed := u.owed - 1, low := 0x80, high := 0xBF }
        decodingFaultFrom? (place + 1) (if next.owed = 0 then none else some next) bs
      else some (u.fault .continuation)

/-- the first fault of bytes, none if they are UTF-8 -/
def decodingFault? (bytes : List UInt8) : Option DecodingFault := decodingFaultFrom? 0 none bytes

/-- halves of pairs in a row, which have no UTF-8 form: the first of them, where it is, and how many they are -/
structure EncodingFault where
  half : Surrogate
  place : Nat
  length : Nat
  deriving DecidableEq, Repr

def EncodingFault.message (f : EncodingFault) : String :=
  "'utf-8' codec can't encode "
    ++ (if f.length = 1 then
        "character '\\u" ++ String.ofList (hexPadded false 4 f.half) ++ "' in position " ++ toString f.place
      else "characters in position " ++ toString f.place ++ "-" ++ toString (f.place + f.length - 1))
    ++ ": surrogates not allowed"

/-- how many halves of pairs there are at the start -/
def halvesAtStart : List Piece → Nat
  | .half _ :: ps => halvesAtStart ps + 1
  | _ => 0

/-- the first fault of pieces from a place on -/
def encodingFaultFrom? (place : Nat) : List Piece → Option EncodingFault
  | [] => none
  | .character _ :: ps => encodingFaultFrom? (place + 1) ps
  | .half n :: ps => some ⟨n, place, halvesAtStart ps + 1⟩

theorem isSome_encodingFaultFrom? {ps : List Piece} (h : characters? ps = none) (place : Nat) :
    (encodingFaultFrom? place ps).isSome = true := by
  induction ps generalizing place with
  | nil => cases h
  | cons p ps ih =>
    cases p with
    | half n => rfl
    | character c => exact ih (Option.map_eq_none_iff.1 h) (place + 1)

/-- **A string that is no text has no UTF-8 form**, and this is where. -/
def Unpaired.fault (u : Unpaired) : EncodingFault :=
  (encodingFaultFrom? 0 u.pieces).get (isSome_encodingFaultFrom? u.unpaired 0)

/-- the bytes of a string -/
def encode? : Str → Except EncodingFault ByteArray
  | .text s => .ok s.toUTF8
  | .unpaired u => .error u.fault

end SchemaTypings.Text
