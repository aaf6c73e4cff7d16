/-
How texts and strings are put together.

Strings are pieces in a row, so that it does not matter in which order they are put together (`TextLike.append_assoc`). A map
that keeps texts and what is put together keeps rows (`TextLike.Preserves.join`). There are two of them: a text is a string
(`preserves_text`), and a string is shown as a text by a character for each half (`preserves_shown`).
-/
import Mathlib.Tactic
import SchemaTypings.Text.Str

namespace SchemaTypings.Text

namespace Str

/-- strings are told by their pieces -/
theorem eq_of_pieces {a b : Str} (h : a.pieces = b.pieces) : a = b := by
  rw [← ofPieces_pieces a, h, ofPieces_pieces]

theorem append_assoc (a b c : Str) : a ++ b ++ c = a ++ (b ++ c) :=
  eq_of_pieces (by simp only [pieces_append, List.append_assoc])

theorem empty_append (a : Str) : text "" ++ a = a := eq_of_pieces (by rw [pieces_append]; rfl)

theorem append_left_cancel {a b c : Str} (h : a ++ b = a ++ c) : b = c := by
  have hpieces : a.pieces ++ b.pieces = a.pieces ++ c.pieces := by rw [← pieces_append, h, pieces_append]
  exact eq_of_pieces (List.append_cancel_left hpieces)

theorem append_empty (a : Str) : a ++ text "" = a := by
  refine eq_of_pieces ?_
  rw [pieces_append]
  exact List.append_nil _

end Str

namespace TextLike

variable {τ σ : Type} [TextLike τ] [TextLike σ]

theorem append_assoc (a b c : τ) : a ++ b ++ c = a ++ (b ++ c) :=
  eq_of_toStr (by simp only [toStr_append, Str.append_assoc])

@[simp]
theorem empty_append (a : τ) : ofText "" ++ a = a :=
  eq_of_toStr (by rw [toStr_append, toStr_ofText, Str.empty_append])

@[simp]
theorem append_empty (a : τ) : a ++ ofText "" = a :=
  eq_of_toStr (by rw [toStr_append, toStr_ofText, Str.append_empty])

theorem append_right_inj {a b c : τ} : a ++ b = a ++ c ↔ b = c := by
  refine ⟨fun h => eq_of_toStr (Str.append_left_cancel (a := toStr a) ?_), fun h => h ▸ rfl⟩
  rw [← toStr_append, h, toStr_append]

/-! ## Rows -/

@[simp]
theorem join_nil : join ([] : List τ) = ofText "" := rfl

theorem foldl_append (start : τ) (ts : List τ) : ts.foldl (· ++ ·) start = start ++ join ts := by
  induction ts generalizing start with
  | nil => exact (append_empty start).symm
  | cons t ts ih => rw [join, List.foldl_cons, List.foldl_cons, empty_append, ih, ih t, append_assoc]

@[simp]
theorem join_cons (t : τ) (ts : List τ) : join (t :: ts) = t ++ join ts := by
  rw [join, List.foldl_cons, empty_append, foldl_append]

@[simp]
theorem join_append (ts us : List τ) : join (ts ++ us) = join ts ++ join us := by
  rw [join, List.foldl_append, foldl_append]
  rfl

/-! ## Maps -/

/-- a map that keeps texts and what is put together -/
structure Preserves (f : τ → σ) : Prop where
  ofText : ∀ s, f (ofText s) = TextLike.ofText s
  append : ∀ a b, f (a ++ b) = f a ++ f b

theorem Preserves.join {f : τ → σ} (hf : Preserves f) (ts : List τ) : f (join ts) = TextLike.join (ts.map f) := by
  induction ts with
  | nil => exact hf.ofText ""
  | cons t ts ih => rw [join_cons, hf.append, ih, List.map_cons, join_cons]

/-- texts are strings -/
theorem preserves_text : Preserves Str.text := ⟨fun _ => rfl, fun _ _ => rfl⟩

/-- the character that a piece is shown as -/
def shownPiece (glyph : Surrogate → Char) : Piece → Char
  | .character c => c
  | .half n => glyph n

/-- a string as a text, with a character for each half of a pair -/
def shown (glyph : Surrogate → Char) (a : τ) : String := .ofList ((toStr a).pieces.map (shownPiece glyph))

def blank : Surrogate → Char := fun _ => ' '

theorem blank_ne {c : Char} (hc : ' ' ≠ c) : ∀ n, blank n ≠ c := fun _ => hc

/-- texts are shown as they are -/
@[simp]
theorem shown_string (glyph : Surrogate → Char) (s : String) : shown glyph s = s := by
  have hid : shownPiece glyph ∘ Piece.character = id := rfl
  rw [shown, toStr_string, Str.pieces, Text.pieces, List.map_map, hid, List.map_id, String.ofList_toList]

theorem preserves_shown (glyph : Surrogate → Char) : Preserves (shown (τ := τ) glyph) where
  ofText s := by
    rw [shown, toStr_ofText]
    exact shown_string glyph s
  append a b := by rw [shown, toStr_append, Str.pieces_append, List.map_append, String.ofList_append, shown, shown]

/-- a character that is not in the string -/
def Lacks (a : τ) (c : Char) : Prop := .character c ∉ (toStr a).pieces

instance (a : τ) (c : Char) : Decidable (Lacks a c) := inferInstanceAs (Decidable (.character c ∉ (toStr a).pieces))

/-- a character that no half is shown as is there if and only if it is shown -/
theorem notMem_shown {glyph : Surrogate → Char} {c : Char} (hc : ∀ n, glyph n ≠ c) {a : τ} :
    c ∉ (shown glyph a).toList ↔ Lacks a c := by
  rw [shown, String.toList_ofList, List.mem_map, Lacks, not_iff_not]
  constructor
  · rintro ⟨p, hp, rfl⟩
    cases p with
    | character d => exact hp
    | half n => exact absurd rfl (hc n)
  · exact fun h => ⟨_, h, rfl⟩

@[simp]
theorem lacks_string {s : String} {c : Char} : Lacks s c ↔ c ∉ s.toList := by
  rw [Lacks, toStr_string, Str.pieces, Text.pieces, List.mem_map_of_injective fun _ _ h => Piece.character.inj h]

end TextLike

end SchemaTypings.Text
