/-
Bytes written in base 64. Characters that are no digits are left out; a group of four that is full with padding ends the data,
and a group that is left open is refused.
-/

namespace SchemaTypings.Yaml.Base64

def digit? (c : Char) : Option Nat :=
  if 'A' ≤ c ∧ c ≤ 'Z' then some (c.toNat - 'A'.toNat)
  else if 'a' ≤ c ∧ c ≤ 'z' then some (c.toNat - 'a'.toNat + 26)
  else if '0' ≤ c ∧ c ≤ '9' then some (c.toNat - '0'.toNat + 52)
  else if c = '+' then some 62
  else if c = '/' then some 63
  else none

/-- bytes from within a group on: `place` digits of it are read, the last of which left the bits `carry`, and `pads` are the
padding characters right before -/
def decodeFrom (place carry pads : Nat) : List Char → Option (List UInt8)
  | [] => if place = 0 then some [] else none
  | c :: cs =>
    if c = '=' then
      if 2 ≤ place then if 4 ≤ place + pads + 1 then some [] else decodeFrom place carry (pads + 1) cs
      else decodeFrom place carry pads cs
    else
      match digit? c with
      | none => decodeFrom place carry pads cs
      | some d =>
        match place with
        | 0 => decodeFrom 1 d 0 cs
        | 1 => (decodeFrom 2 (d % 16) 0 cs).map ((carry * 4 + d / 16).toUInt8 :: ·)
        | 2 => (decodeFrom 3 (d % 4) 0 cs).map ((carry * 16 + d / 4).toUInt8 :: ·)
        | _ => (decodeFrom 0 0 0 cs).map ((carry * 64 + d).toUInt8 :: ·)

/-- the bytes that an ASCII text writes -/
def decode? (cs : List Char) : Option (List UInt8) :=
  if cs.all (·.toNat < 128) then decodeFrom 0 0 0 cs else none

end SchemaTypings.Yaml.Base64
