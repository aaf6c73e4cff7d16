/-
Strings. Most of them are texts; a string that holds half a pair of surrogates is none, and has no UTF-8 form. `Str.pieces_append`
says that strings are put together piece by piece: halves that come to stand side by side are no character.

What is written of texts alone can be written of strings as well: `TextLike` is what both have in common.
-/
import SchemaTypings.Text.CodePoint

namespace SchemaTypings.Text

/-- pieces that are no text, since there is half a pair of surrogates among them -/
structure Unpaired where
  pieces : List Piece
  unpaired : characters? pieces = none
  deriving DecidableEq, Repr

/-- strings: texts, and pieces that are none -/
inductive Str where
  | text (s : String)
  | unpaired (u : Unpaired)
  deriving DecidableEq, Repr

namespace Str

def pieces : Str → List Piece
  | .text s => Text.pieces s.toList
  | .unpaired u => u.pieces

def ofPieces (ps : List Piece) : Str :=
  match h : characters? ps with
  | some cs => .text (String.ofList cs)
  | none => .unpaired ⟨ps, h⟩

instance : Append Str where
  append
    | .text s, .text t => .text (s ++ t)
    | a, b => ofPieces (a.pieces ++ b.pieces)

@[simp]
theorem text_append_text (s t : String) : (text s ++ text t : Str) = text (s ++ t) := rfl

theorem characters?_eq_some {ps : List Piece} {cs : List Char} (h : characters? ps = some cs) : ps = Text.pieces cs := by
  induction ps generalizing cs with
  | nil =>
    obtain rfl := Option.some.inj h
    rfl
  | cons p ps ih =>
    cases p with
    | half n => cases h
    | character c =>
      obtain ⟨ds, hds, rfl⟩ := Option.map_eq_some_iff.1 h
      rw [ih hds]
      rfl

@[simp]
theorem pieces_ofPieces (ps : List Piece) : (ofPieces ps).pieces = ps := by
  unfold ofPieces
  split
  · next cs h =>
    rw [characters?_eq_some h, pieces, String.toList_ofList]
  · rfl

@[simp]
theorem ofPieces_characters (cs : List Char) : ofPieces (Text.pieces cs) = .text (String.ofList cs) := by
  unfold ofPieces
  split
  · next ds h =>
    rw [characters_pieces] at h
    rw [Option.some.inj h]
  · next h =>
    rw [characters_pieces] at h
    cases h

@[simp]
theorem ofPieces_pieces (s : Str) : ofPieces s.pieces = s := by
  cases s with
  | text s => simp [pieces]
  | unpaired u =>
    unfold ofPieces
    split
    · next cs h =>
      rw [pieces, u.unpaired] at h
      cases h
    · rfl

/-- **Strings are put together piece by piece.** -/
@[simp]
theorem pieces_append (a b : Str) : (a ++ b).pieces = a.pieces ++ b.pieces := by
  cases a with
  | text s =>
    cases b with
    | text t => simp [pieces, Text.pieces]
    | unpaired u => exact pieces_ofPieces _
  | unpaired u => exact pieces_ofPieces _

end Str

/-- what texts and strings have in common: they are strings, texts are among them, and they can be put together -/
class TextLike (τ : Type) extends Append τ where
  ofText : String → τ
  toStr : τ → Str
  toStr_ofText : ∀ s, toStr (ofText s) = .text s
  toStr_append : ∀ a b, toStr (a ++ b) = toStr a ++ toStr b
  eq_of_toStr : ∀ {a b}, toStr a = toStr b → a = b

namespace TextLike

instance : TextLike String where
  ofText := id
  toStr := .text
  toStr_ofText _ := rfl
  toStr_append _ _ := rfl
  eq_of_toStr := Str.text.inj

instance : TextLike Str where
  ofText := .text
  toStr := id
  toStr_ofText _ := rfl
  toStr_append _ _ := rfl
  eq_of_toStr := id

attribute [simp] toStr_ofText toStr_append

variable {τ : Type} [TextLike τ]

def join (ts : List τ) : τ := ts.foldl (· ++ ·) (ofText "")

@[simp]
theorem ofText_string (s : String) : (ofText s : String) = s := rfl

@[simp]
theorem ofText_str (s : String) : (ofText s : Str) = .text s := rfl

@[simp]
theorem toStr_string (s : String) : toStr s = .text s := rfl

@[simp]
theorem toStr_str (s : Str) : toStr s = s := rfl

theorem join_string (ts : List String) : join ts = String.join ts := rfl

end TextLike

end SchemaTypings.Text
