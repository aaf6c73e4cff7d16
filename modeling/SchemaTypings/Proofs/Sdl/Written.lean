/-
Texts that write given tokens.

The separators are freedom of the text: any of them may stand between two tokens (`Writes`), and the tokens of such a
text are the given ones (`tokens_of_writes`), whatever the separators are. What a single token needs for that is
`Reads`: the lexer takes it, and no more than it, wherever a separator or the end of the text follows.
-/
import SchemaTypings.Proofs.Sdl.Name
import SchemaTypings.Proofs.Text.Span

namespace SchemaTypings.Sdl

open SchemaTypings.Text

/-! ## Separators -/

/-- characters that separate tokens: blanks, commas, line ends, byte order marks, and comments with their line ends -/
inductive Separator : List Char → Prop where
  | nil : Separator []
  | blank {c : Char} {cs : List Char} : isSeparator c = true → Separator cs → Separator (c :: cs)
  | comment {body cs : List Char} {e : Char} : (∀ c ∈ body, Line.isEnd c = false) → Line.isEnd e = true → Separator cs →
      Separator ('#' :: body ++ e :: cs)

/-- whether a token cannot go on here: at the end of the text, or at the first character of a separator -/
def isApart (cs : List Char) : Bool := cs.head?.all fun c => isSeparator c || c = '#'

theorem Separator.isApart {sep : List Char} (h : Separator sep) (hne : sep ≠ []) (cs : List Char) :
    isApart (sep ++ cs) = true := by
  cases h with
  | nil => exact absurd rfl hne
  | blank hc _ => simp [Sdl.isApart, hc]
  | comment _ _ _ => simp [Sdl.isApart]

theorem skip_comment {body : List Char} {e : Char} (hbody : ∀ c ∈ body, Line.isEnd c = false)
    (he : Line.isEnd e = true) (cs : List Char) : skip true (body ++ e :: cs) = skip false cs := by
  induction body with
  | nil => simp [skip, he]
  | cons c body ih =>
    rw [List.cons_append, skip, if_pos rfl, hbody c List.mem_cons_self]
    exact ih fun d hd => hbody d (List.mem_cons_of_mem c hd)

theorem isSeparator_ne_hash {c : Char} (h : isSeparator c = true) : c ≠ '#' := by
  rintro rfl
  exact absurd h (by decide)

theorem skip_separator {sep : List Char} (h : Separator sep) (cs : List Char) :
    skip false (sep ++ cs) = skip false cs := by
  induction h with
  | nil => rfl
  | @blank c sep hc _ ih =>
    rw [List.cons_append, skip, if_neg Bool.false_ne_true, if_neg (isSeparator_ne_hash hc), if_pos hc]
    exact ih
  | @comment body sep e hbody he _ ih =>
    rw [List.append_assoc, List.cons_append, List.cons_append, skip, if_neg Bool.false_ne_true, if_pos rfl,
      skip_comment hbody he]
    exact ih

/-! ## Tokens -/

/-- characters that are read as a token wherever a separator or the end of the text follows -/
def Reads (t : Token) (cs : List Char) : Prop :=
  ∃ c r, cs = c :: r ∧ isSeparator c = false ∧ c ≠ '#' ∧
    ∀ rest, isApart rest = true → read c (r ++ rest) = .ok (t, rest)

/-- how names and punctuators are written -/
inductive Spells : Token → List Char → Prop where
  | name {n : String} : isName n = true → Spells (.name n) n.toList
  | punct (p : Punct) : Spells (.punct p) p.text.toList

/-- texts that write tokens as `S` does, with a separator between any two -/
inductive Writes (S : Token → List Char → Prop) : List Token → List Char → Prop where
  | last {t : Token} {cs : List Char} : S t cs → Writes S [t] cs
  | cons {t u : Token} {ts : List Token} {cs sep text : List Char} : S t cs → Separator sep → sep ≠ [] →
      Writes S (u :: ts) text → Writes S (t :: u :: ts) (cs ++ sep ++ text)

theorem Writes.mono {S R : Token → List Char → Prop} (hSR : ∀ t cs, S t cs → R t cs) {ts : List Token}
    {text : List Char} (h : Writes S ts text) : Writes R ts text := by
  induction h with
  | last h => exact .last (hSR _ _ h)
  | cons h hsep hne _ ih => exact .cons (hSR _ _ h) hsep hne ih

theorem isNameStart_not_separator {c : Char} (h : isNameStart c = true) : isSeparator c = false ∧ c ≠ '#' := by
  constructor
  · by_contra hs
    rw [Bool.not_eq_false] at hs
    simp only [isSeparator, Bool.or_eq_true, decide_eq_true_eq] at hs
    rcases hs with ((((rfl | rfl) | rfl) | rfl) | rfl) | rfl <;> exact absurd h (by decide)
  · rintro rfl
    exact absurd h (by decide)

theorem isApart_not_name {cs : List Char} (h : isApart cs = true) : cs.head?.any isNameCharacter = false := by
  cases cs with
  | nil => rfl
  | cons c cs =>
    simp only [isApart, isSeparator, List.head?_cons, Option.all_some, Bool.or_eq_true, decide_eq_true_eq] at h
    rw [List.head?_cons, Option.any_some]
    rcases h with (((((rfl | rfl) | rfl) | rfl) | rfl) | rfl) | rfl <;> decide

theorem isDigit_of_isNameStart {c : Char} (h : isNameStart c = true) :
    isDigit c = false ∧ c ≠ '.' ∧ c ≠ '"' ∧ c ≠ '-' := by
  refine ⟨?_, ?_, ?_, ?_⟩
  · simp only [isNameStart, Bool.or_eq_true, Bool.and_eq_true, decide_eq_true_eq, Char.le_def,
      UInt32.le_iff_toNat_le] at h
    simp only [isDigit, Bool.and_eq_false_iff, decide_eq_false_iff_not, Char.le_def, UInt32.le_iff_toNat_le]
    rcases h with (h | h) | rfl
    · exact .inr (by simp at h ⊢; omega)
    · exact .inr (by simp at h ⊢; omega)
    · exact .inr (by decide)
  all_goals
    rintro rfl
    exact absurd h (by decide)

theorem reads_name {n : String} (h : isName n = true) : Reads (.name n) n.toList := by
  unfold isName at h
  cases hn : n.toList with
  | nil => rw [hn] at h; simp [isNameText] at h
  | cons c cs =>
    rw [hn] at h
    simp only [isNameText, Bool.and_eq_true, List.all_eq_true] at h
    obtain ⟨hc, hcs⟩ := h
    refine ⟨c, cs, rfl, (isNameStart_not_separator hc).1, (isNameStart_not_separator hc).2, fun rest hrest => ?_⟩
    obtain ⟨htake, hdrop⟩ := takeWhile_append_stop hcs (isApart_not_name hrest)
    obtain ⟨hdigit, hdot, hquote, hminus⟩ := isDigit_of_isNameStart hc
    simp only [read, hdot, hquote, hminus, hdigit, hc, htake, hdrop, if_true, if_false, decide_false, Bool.or_self,
      Bool.false_eq_true, ← hn, String.ofList_toList]

theorem reads_punct (p : Punct) : Reads (.punct p) p.text.toList := by
  cases p <;> exact ⟨_, _, rfl, by decide, by decide, fun rest _ => rfl⟩

theorem Spells.reads {t : Token} {cs : List Char} (h : Spells t cs) : Reads t cs := by
  cases h with
  | name hn => exact reads_name hn
  | punct p => exact reads_punct p

/-! ## Texts -/

theorem lex_nil {cs : List Char} (hs : skip false cs = []) : lex cs = [] := by
  rw [lex]
  split
  · rfl
  · next h => rw [hs] at h; cases h

theorem lex_cons {cs rest : List Char} {c : Char} (hs : skip false cs = c :: rest) :
    lex cs = match read c rest with
      | .error (d, left) => [⟨.broken d, left⟩]
      | .ok (t, rest') => ⟨t, rest.length + 1⟩ :: lex rest' := by
  rw [lex]
  split
  · next h => rw [hs] at h; cases h
  · next h =>
    rw [hs] at h
    cases h
    split
    · next h => rw [h]
    · next h => simp only [h]

@[simp]
theorem tokens_nil : tokens [] = [] := by
  rw [tokens, lex_nil rfl, List.map_nil]

theorem Reads.tokens_append {t : Token} {cs rest : List Char} (h : Reads t cs) (hrest : isApart rest = true) :
    tokens (cs ++ rest) = t :: tokens rest := by
  obtain ⟨c, r, rfl, hsep, hhash, hread⟩ := h
  have hskip : skip false (c :: (r ++ rest)) = c :: (r ++ rest) := by
    rw [skip, if_neg Bool.false_ne_true, if_neg hhash, if_neg (by simp [hsep])]
  rw [tokens, List.cons_append, lex_cons hskip, hread rest hrest]
  rfl

/-- the tokens of a text depend on what is left of it at the first of them -/
theorem lex_of_skip {cs ds : List Char} (h : skip false cs = skip false ds) : lex cs = lex ds := by
  cases hs : skip false cs with
  | nil => rw [lex_nil hs, lex_nil (h.symm.trans hs)]
  | cons c rest => rw [lex_cons hs, lex_cons (h.symm.trans hs)]

theorem tokens_separator {sep : List Char} (h : Separator sep) (cs : List Char) : tokens (sep ++ cs) = tokens cs := by
  rw [tokens, tokens, lex_of_skip (skip_separator h cs)]

/-- the same separator may stand between any two tokens -/
theorem writes_intercalate {S : Token → List Char → Prop} {sep : List Char} (hsep : Separator sep) (hne : sep ≠ [])
    {ts : List Token} {css : List (List Char)} (hts : ts ≠ []) (h : List.Forall₂ S ts css) :
    Writes S ts (sep.intercalate css) := by
  induction h with
  | nil => exact absurd rfl hts
  | @cons t cs ts css h hrest ih =>
    cases hrest with
    | nil => simpa [List.intercalate] using Writes.last h
    | cons _ _ =>
      have hwrites := Writes.cons h hsep hne (ih (by simp))
      simpa [List.intercalate] using hwrites

/-- **The tokens of a text that writes tokens.** -/
theorem tokens_of_writes {S : Token → List Char → Prop} (hS : ∀ t cs, S t cs → Reads t cs) {ts : List Token}
    {text : List Char} (h : Writes S ts text) : tokens text = ts := by
  induction h with
  | @last t cs h =>
    have htokens : tokens (cs ++ []) = t :: tokens [] := (hS _ _ h).tokens_append rfl
    rwa [List.append_nil, tokens_nil] at htokens
  | @cons t u ts cs sep text h hsep hne _ ih =>
    rw [List.append_assoc, (hS _ _ h).tokens_append (hsep.isApart hne text), tokens_separator hsep, ih]

end SchemaTypings.Sdl
