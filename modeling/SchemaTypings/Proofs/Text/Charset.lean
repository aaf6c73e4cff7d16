/-
Texts that are the same in every encoding.

Encodings that extend ASCII (`Charset.ExtendsAscii`) write the characters of ASCII as their numbers, each as one byte, and
read them back; UTF-8 and Latin-1 are two of them. So a text of such characters has the same bytes in all of them
(`ExtendsAscii.encode`). If it has no CR, it is also read back whatever a platform writes for an LF (`unify_ended`).
-/
import SchemaTypings.Proofs.Text.LineEnd

namespace SchemaTypings.Text

/-- an encoding of characters as bytes; not all texts need to have bytes, nor all bytes a text -/
structure Charset where
  encode : List Char → Option ByteArray
  decode : ByteArray → Option (List Char)

def IsAscii (cs : List Char) : Prop := ∀ c ∈ cs, c.toNat < 0x80

/-- the low bytes of the numbers of characters -/
def lowBytes (cs : List Char) : ByteArray := (cs.map fun c => c.toNat.toUInt8).toByteArray

namespace Charset

/-- encodings that write characters of ASCII as their numbers, and read them back -/
structure ExtendsAscii (charset : Charset) : Prop where
  encode : ∀ {cs : List Char}, IsAscii cs → charset.encode cs = some (lowBytes cs)
  decode : ∀ {cs : List Char}, IsAscii cs → charset.decode (lowBytes cs) = some cs

def utf8 : Charset where
  encode cs := some (String.ofList cs).toUTF8
  decode bytes := (String.fromUTF8? bytes).map String.toList

def latin1 : Charset where
  encode cs := if cs.all (·.toNat < 0x100) then some (lowBytes cs) else none
  decode bytes := some (bytes.data.toList.map fun b => Char.ofNat b.toNat)

theorem toUTF8_of_isAscii {cs : List Char} (h : IsAscii cs) : (String.ofList cs).toUTF8 = lowBytes cs := by
  have hbytes : cs.flatMap String.utf8EncodeChar = cs.flatMap fun c => [c.toNat.toUInt8] :=
    List.flatMap_congr fun c hc => if_pos (Nat.le_of_lt_succ (h c hc))
  rw [← List.map_eq_flatMap] at hbytes
  rw [String.toUTF8_eq_toByteArray, String.toByteArray_ofList, List.utf8Encode, hbytes, lowBytes]

theorem extendsAscii_utf8 : utf8.ExtendsAscii where
  encode h := congrArg some (toUTF8_of_isAscii h)
  decode := by
    intro cs h
    have hvalid : String.fromUTF8? (String.ofList cs).toUTF8 = some (String.ofList cs) := by
      rw [String.toUTF8_eq_toByteArray]
      exact dif_pos (String.ofList cs).isValidUTF8
    rw [← toUTF8_of_isAscii h]
    simp only [utf8, hvalid, Option.map_some, String.toList_ofList]

theorem extendsAscii_latin1 : latin1.ExtendsAscii where
  encode := by
    intro cs h
    refine if_pos (List.all_eq_true.2 fun c hc => decide_eq_true ?_)
    exact (h c hc).trans (by decide)
  decode := by
    intro cs h
    have hback : ∀ c ∈ cs, Char.ofNat c.toNat.toUInt8.toNat = c := by
      intro c hc
      have hlow : c.toNat.toUInt8.toNat = c.toNat := Nat.mod_eq_of_lt ((h c hc).trans (by decide))
      rw [hlow, Char.ofNat_toNat]
    refine congrArg some ?_
    rw [lowBytes, List.data_toByteArray, List.map_map]
    exact (List.map_congr_left hback).trans (List.map_id cs)

end Charset

/-! ## Line ends -/

namespace Line

/-- what platforms write for an LF -/
def ends : List (List Char) := [['\n'], ['\r'], ['\r', '\n']]

/-- a text with something else for each LF -/
def ended (e cs : List Char) : List Char := cs.flatMap fun c => if c = '\n' then e else [c]

theorem isAscii_ended {e cs : List Char} (he : e ∈ ends) (hcs : IsAscii cs) : IsAscii (ended e cs) := by
  have hends : ∀ e ∈ ends, ∀ c ∈ e, c = '\n' ∨ c = '\r' := by simp [ends]
  intro d hd
  obtain ⟨c, hc, hd⟩ := List.mem_flatMap.1 hd
  split_ifs at hd
  · rcases hends e he d hd with rfl | rfl <;> decide
  · rw [List.mem_singleton.1 hd]
    exact hcs c hc

@[simp]
theorem ended_lf (e cs : List Char) : ended e ('\n' :: cs) = e ++ ended e cs := rfl

@[simp]
theorem ended_cons {c : Char} (hc : c ≠ '\n') (e cs : List Char) : ended e (c :: cs) = c :: ended e cs := by
  rw [ended, List.flatMap_cons, if_neg hc]
  rfl

/-- if a CR is written for each LF, there is no LF -/
theorem notMem_ended_cr (cs : List Char) : '\n' ∉ ended ['\r'] cs := by
  intro hmem
  obtain ⟨c, _, hc⟩ := List.mem_flatMap.1 hmem
  split_ifs at hc with hlf
  · exact absurd (List.mem_singleton.1 hc) (by decide)
  · exact hlf (List.mem_singleton.1 hc).symm

/-- what is written for an LF is read as one line end, before anything written so -/
theorem unify_end {e : List Char} (he : e ∈ ends) (cs : List Char) :
    unify (e ++ ended e cs) = '\n' :: unify (ended e cs) := by
  simp only [ends, List.mem_cons, List.not_mem_nil, or_false] at he
  rcases he with rfl | rfl | rfl
  · exact unify_cons (by decide) _
  · refine unify_single fun h => ?_
    exact notMem_ended_cr cs (List.mem_of_mem_head? h.2)
  · exact unify_pair _

/-- **Whatever is written for an LF,** a text without CR is read back. -/
theorem unify_ended {e cs : List Char} (he : e ∈ ends) (hcs : '\r' ∉ cs) : unify (ended e cs) = cs := by
  induction cs with
  | nil => rfl
  | cons c cs ih =>
    obtain ⟨hc, hrest⟩ := not_or.1 (mt List.mem_cons.2 hcs)
    by_cases hlf : c = '\n'
    · rw [hlf, ended_lf, unify_end he, ih hrest]
    · rw [ended_cons hlf, unify_cons (Ne.symm hc), ih hrest]

end Line

end SchemaTypings.Text
