/-
Decimal digits and blanks of all scripts (Unicode 14). In a number they may stand for those of ASCII.
-/
import SchemaTypings.Text.CodePoint

namespace SchemaTypings.Text

/-- the zeros beyond ASCII; nine digits follow on each -/
def zeros : List Nat :=
  [0x660, 0x6F0, 0x7C0, 0x966, 0x9E6, 0xA66, 0xAE6, 0xB66, 0xBE6, 0xC66, 0xCE6, 0xD66, 0xDE6, 0xE50, 0xED0, 0xF20,
   0x1040, 0x1090, 0x17E0, 0x1810, 0x1946, 0x19D0, 0x1A80, 0x1A90, 0x1B50, 0x1BB0, 0x1C40, 0x1C50, 0xA620, 0xA8D0,
   0xA900, 0xA9D0, 0xA9F0, 0xAA50, 0xABF0, 0xFF10, 0x104A0, 0x10D30, 0x11066, 0x110F0, 0x11136, 0x111D0, 0x112F0,
   0x11450, 0x114D0, 0x11650, 0x116C0, 0x11730, 0x118E0, 0x11950, 0x11C50, 0x11D50, 0x11DA0, 0x16A60, 0x16AC0,
   0x16B50, 0x1D7CE, 0x1D7D8, 0x1D7E2, 0x1D7EC, 0x1D7F6, 0x1E140, 0x1E2F0, 0x1E950, 0x1FBF0]

/-- blanks and line ends beyond ASCII -/
def wideBlanks : List (Nat × Nat) :=
  [(0x85, 0x85), (0xA0, 0xA0), (0x1680, 0x1680), (0x2000, 0x200A), (0x2028, 0x2029), (0x202F, 0x202F), (0x205F, 0x205F),
   (0x3000, 0x3000)]

/-- blanks and line ends, ASCII included -/
def isBlank (c : Char) : Bool := c = ' ' || ('\t' ≤ c && c ≤ '\x0d') || ('\x1c' ≤ c && c ≤ '\x1f') || isAmong wideBlanks c.toNat

/-- a character as it counts in a number: digits and blanks beyond ASCII are those of ASCII -/
def numeral (c : Char) : Char :=
  match zeros.find? fun z => z ≤ c.toNat && c.toNat < z + 10 with
  | some z => Char.ofNat ('0'.toNat + (c.toNat - z))
  | none => if isAmong wideBlanks c.toNat then ' ' else c

end SchemaTypings.Text
