/-
Names of the schema language, and where they come from.

`isName` says which texts are names; `isName_of_mem_tokens`: a name among the tokens of a text is one. No other rule of
the lexer makes a name token, so this needs no look at strings, numbers or comments.
-/
import Mathlib.Tactic
import SchemaTypings.Sdl.Lexeme

namespace SchemaTypings.Sdl

/-- whether characters are a name: a letter or underscore, and then digits too -/
def isNameText : List Char → Bool
  | [] => false
  | c :: cs => isNameStart c && cs.all isNameCharacter

def isName (n : String) : Bool := isNameText n.toList

theorem isName_ofList (cs : List Char) : isName (String.ofList cs) = isNameText cs := by
  simp [isName]

theorem all_of_isNameText {cs : List Char} (h : isNameText cs = true) : ∀ c ∈ cs, isNameCharacter c = true := by
  cases cs with
  | nil => simp
  | cons c cs =>
    simp only [isNameText, Bool.and_eq_true, List.all_eq_true] at h
    rintro d (_ | ⟨_, hd⟩)
    · simp [isNameCharacter, h.1]
    · exact h.2 d hd

/-! ## Names among tokens -/

theorem readDots_ne_name {cs rest : List Char} {t : Token} (n : String) (h : readDots cs = .ok (t, rest)) :
    t ≠ .name n := by
  unfold readDots at h
  split at h
  · simp only [Except.ok.injEq, Prod.mk.injEq] at h
    rw [← h.1]; simp
  · simp at h
  · split at h <;> simp at h
  · simp at h

theorem readNumber_ne_name {cs rest : List Char} {t : Token} (n : String) (h : readNumber cs = .ok (t, rest)) :
    t ≠ .name n := by
  unfold readNumber at h
  obtain ⟨⟨whole, us⟩, -, h⟩ := Outcome.bind_eq_ok.1 h
  obtain ⟨⟨fraction, vs⟩, -, h⟩ := Outcome.bind_eq_ok.1 h
  obtain ⟨⟨exponent, ws⟩, -, h⟩ := Outcome.bind_eq_ok.1 h
  dsimp only at h
  split at h
  · cases h
  · obtain ⟨rfl, rfl⟩ := Prod.mk.inj (Except.ok.inj h)
    split_ifs <;> simp

/-- a token that is a name is one by its characters -/
theorem isName_of_read {c : Char} {cs rest : List Char} {n : String} (h : read c cs = .ok (.name n, rest)) :
    isName n = true := by
  unfold read at h
  split_ifs at h with hdot hquote hnumber hname
  · exact absurd rfl (readDots_ne_name n h)
  · split at h
    · split at h <;> simp at h
    · obtain ⟨p, -, ⟨⟩⟩ := Outcome.map_eq_ok.1 h
  · exact absurd rfl (readNumber_ne_name n h)
  · simp only [Except.ok.injEq, Prod.mk.injEq, Token.name.injEq] at h
    rw [← h.1, isName_ofList]
    simp [isNameText, hname]
  · split at h <;> simp at h

/-- **Names of a text are names.** -/
theorem isName_of_mem_tokens {cs : List Char} {n : String} (h : Token.name n ∈ tokens cs) : isName n = true := by
  unfold tokens at h
  fun_induction lex cs with
  | case1 => simp at h
  | case2 => simp at h
  | case3 cs c rest hs t rest' hr hlt ih =>
    rw [List.map_cons, List.mem_cons] at h
    rcases h with rfl | h
    · exact isName_of_read hr
    · exact ih h

end SchemaTypings.Sdl
