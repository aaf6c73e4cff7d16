/-
The tokens of a text with another text below it.

A line end stops every token that it does not stand in. So a reader takes from a text the same with more lines below it
(`Lasts`), and tokens without a defect are those of the upper text and then those of the lower one
(`tokens_above`).
-/
import SchemaTypings.Proofs.Sdl.Literal

namespace SchemaTypings.Sdl

open SchemaTypings.Text

variable {α β ε : Type} {more : List Char}

/-- a text with another one below it -/
def above (cs more : List Char) : List Char := cs ++ '\n' :: more

@[simp]
theorem above_cons (c : Char) (cs more : List Char) : above (c :: cs) more = c :: above cs more := rfl

theorem append_above (ds cs more : List Char) : ds ++ above cs more = above (ds ++ cs) more := by
  rw [above, above, List.append_assoc]

/-- what a reader makes of a text, it makes of it with lines below, and it leaves these -/
def Lasts (more : List Char) (x y : Except ε (α × List Char)) : Prop :=
  ∀ a rest, x = .ok (a, rest) → y = .ok (a, above rest more)

/-- what takes nothing lasts -/
theorem lasts_ok (a : α) (cs more : List Char) :
    Lasts more (.ok (a, cs) : Except ε (α × List Char)) (.ok (a, above cs more)) := by
  intro b rest h
  obtain ⟨rfl, rfl⟩ := Prod.mk.inj (Except.ok.inj h)
  rfl

theorem Lasts.bind {x y : Except ε (α × List Char)} {f : α × List Char → Except ε (β × List Char)}
    (h : Lasts more x y) (hf : ∀ a rest, Lasts more (f (a, rest)) (f (a, above rest more))) :
    Lasts more (x >>= f) (y >>= f) := by
  intro b rest hb
  cases x with
  | error e => cases hb
  | ok r =>
    obtain ⟨a, mid⟩ := r
    rw [h a mid rfl]
    exact hf a mid b rest hb

/-! ## Line ends stop what is taken -/

theorem head?_above {c : Char} (hc : c ≠ '\n') (cs more : List Char) :
    (above cs more).head? = some c ↔ cs.head? = some c := by
  cases cs with
  | nil => simp [above, Ne.symm hc]
  | cons d cs => rfl

theorem head?_any_above {p : Char → Bool} (hp : p '\n' = false) (cs more : List Char) :
    (above cs more).head?.any p = cs.head?.any p := by
  cases cs with
  | nil => simp [above, hp]
  | cons c cs => rfl

theorem takeWhile_above {p : Char → Bool} (hp : p '\n' = false) (cs more : List Char) :
    (above cs more).takeWhile p = cs.takeWhile p ∧ (above cs more).dropWhile p = above (cs.dropWhile p) more := by
  obtain ⟨us, vs, rfl, hus, hvs⟩ := exists_span p cs
  have hstop : (above vs more).head?.any p = false := by rw [head?_any_above hp, hvs]
  obtain ⟨htake, hdrop⟩ := takeWhile_append_stop hus hvs
  obtain ⟨htake', hdrop'⟩ := takeWhile_append_stop hus hstop
  rw [← append_above, htake, hdrop, htake', hdrop']
  exact ⟨rfl, rfl⟩

/-- a sign is taken, or there is none -/
theorem sign_above {p : Char → Bool} (hp : p '\n' = false) (cs more : List Char) :
    ((above cs more).take 1).filter p = (cs.take 1).filter p ∧
      (above cs more).drop ((cs.take 1).filter p).length = above (cs.drop ((cs.take 1).filter p).length) more := by
  cases cs with
  | nil => simp [above, hp]
  | cons c cs =>
    cases hc : p c with
    | false => simp [above, hc]
    | true => simp [above, hc]

/-! ## Numbers -/

theorem readDigits_above (cs more : List Char) : Lasts more (readDigits cs) (readDigits (above cs more)) := by
  intro ds rest h
  obtain ⟨htake, hdrop⟩ := takeWhile_above (p := isDigit) rfl cs more
  unfold readDigits at h ⊢
  rw [head?_any_above rfl, htake, hdrop]
  split_ifs at h ⊢
  obtain ⟨rfl, rfl⟩ := Prod.mk.inj (Except.ok.inj h)
  rfl

theorem readWhole_above (cs more : List Char) : Lasts more (readWhole cs) (readWhole (above cs more)) := by
  by_cases hzero : cs.head? = some '0'
  · intro ds rest h
    obtain ⟨us, rfl⟩ : ∃ us, cs = '0' :: us := List.head?_eq_some_iff.1 hzero
    cases us with
    | nil =>
      obtain ⟨rfl, rfl⟩ := Prod.mk.inj (Except.ok.inj h)
      rfl
    | cons c us =>
      rw [readWhole] at h
      rw [above_cons, above_cons, readWhole]
      split_ifs at h ⊢
      obtain ⟨rfl, rfl⟩ := Prod.mk.inj (Except.ok.inj h)
      rfl
  · have hzero' : (above cs more).head? ≠ some '0' := mt (head?_above (by decide) cs more).1 hzero
    rw [readWhole_of_ne hzero, readWhole_of_ne hzero']
    exact readDigits_above cs more

theorem readFraction_above (cs more : List Char) : Lasts more (readFraction cs) (readFraction (above cs more)) := by
  by_cases hdot : cs.head? = some '.'
  · obtain ⟨us, rfl⟩ : ∃ us, cs = '.' :: us := List.head?_eq_some_iff.1 hdot
    exact (readDigits_above us more).bind fun digits rest => lasts_ok _ rest more
  · have hdot' : (above cs more).head? ≠ some '.' := mt (head?_above (by decide) cs more).1 hdot
    rw [readFraction_of_ne hdot, readFraction_of_ne hdot']
    exact lasts_ok _ cs more

theorem readExponent_above (cs more : List Char) : Lasts more (readExponent cs) (readExponent (above cs more)) := by
  by_cases hletter : cs.head? = some 'e' ∨ cs.head? = some 'E'
  · obtain ⟨e, us, he, rfl⟩ : ∃ e us, (e = 'e' ∨ e = 'E') ∧ cs = e :: us := by
      rcases hletter with h | h
      · exact ⟨_, _, .inl rfl, (List.head?_eq_some_iff.1 h).choose_spec⟩
      · exact ⟨_, _, .inr rfl, (List.head?_eq_some_iff.1 h).choose_spec⟩
    obtain ⟨hsign, hdrop⟩ := sign_above (p := fun c => c = '+' || c = '-') rfl us more
    rw [above_cons, readExponent, readExponent, if_pos he, if_pos he]
    simp only [hsign, hdrop]
    exact (readDigits_above _ more).bind fun digits rest => lasts_ok _ rest more
  · rw [not_or] at hletter
    have hletter' : (above cs more).head? ≠ some 'e' ∧ (above cs more).head? ≠ some 'E' :=
      ⟨mt (head?_above (by decide) cs more).1 hletter.1, mt (head?_above (by decide) cs more).1 hletter.2⟩
    rw [readExponent_of_ne hletter, readExponent_of_ne hletter']
    exact lasts_ok _ cs more

theorem readNumber_above (cs more : List Char) : Lasts more (readNumber cs) (readNumber (above cs more)) := by
  obtain ⟨hsign, hdrop⟩ := sign_above (p := (· = '-')) rfl cs more
  unfold readNumber
  simp only [hsign, hdrop]
  refine (readWhole_above _ more).bind fun whole rest => (readFraction_above rest more).bind fun fraction rest => ?_
  refine (readExponent_above rest more).bind fun exponent rest => ?_
  dsimp only
  rw [head?_any_above rfl]
  split
  · intro a rest' h
    cases h
  · exact lasts_ok _ rest more

/-! ## Tokens -/

theorem readDots_above (cs more : List Char) : Lasts more (readDots cs) (readDots (above cs more)) := by
  intro t rest h
  unfold readDots at h
  split at h
  · obtain ⟨rfl, rfl⟩ := Prod.mk.inj (Except.ok.inj h)
    rfl
  · cases h
  · split_ifs at h
  · cases h

theorem readQuoted_above (cs more : List Char) : Lasts more (read '"' cs) (read '"' (above cs more)) := by
  intro t rest h
  by_cases hquotes : ∃ us, cs = '"' :: '"' :: us
  · obtain ⟨us, rfl⟩ := hquotes
    rw [read_tripleQuote] at h
    cases hread : readBlock us with
    | none =>
      rw [hread] at h
      cases h
    | some p =>
      rw [hread] at h
      obtain ⟨rfl, rfl⟩ := Prod.mk.inj (Except.ok.inj h)
      obtain ⟨body, rfl, hbody⟩ := exists_of_readBlock hread
      rw [above_cons, above_cons, read_tripleQuote, ← append_above, ← append_above, readBlock_body hbody]
      rfl
  · have hquotes' : ¬∃ us, above cs more = '"' :: '"' :: us := by
      rintro ⟨us, hus⟩
      cases cs with
      | nil => exact absurd (List.cons.inj hus).1 (by decide)
      | cons c cs =>
        obtain ⟨rfl, hcs⟩ := List.cons.inj hus
        cases cs with
        | nil => exact absurd (List.cons.inj hcs).1 (by decide)
        | cons d cs =>
          obtain ⟨rfl, _⟩ := List.cons.inj hcs
          exact hquotes ⟨cs, rfl⟩
    rw [read_quote hquotes] at h
    rw [read_quote hquotes']
    cases hread : readString cs with
    | error e =>
      rw [hread] at h
      cases h
    | ok p =>
      rw [hread] at h
      obtain ⟨rfl, rfl⟩ := Prod.mk.inj (Except.ok.inj h)
      obtain ⟨body, rfl, hbody⟩ := exists_of_readString hread
      have hread' := readString_body hbody (above p.2 more)
      rw [← above_cons, append_above] at hread'
      rw [hread']
      rfl

/-- **A token is read with lines below it**, and the lines are left. -/
theorem read_above (c : Char) (cs more : List Char) : Lasts more (read c cs) (read c (above cs more)) := by
  by_cases hdot : c = '.'
  · subst hdot
    exact readDots_above cs more
  by_cases hquote : c = '"'
  · subst hquote
    exact readQuoted_above cs more
  unfold read
  rw [if_neg hdot, if_neg hquote, if_neg hdot, if_neg hquote]
  split
  · exact readNumber_above (c :: cs) more
  · split
    · obtain ⟨htake, hdrop⟩ := takeWhile_above (p := isNameCharacter) rfl cs more
      rw [htake, hdrop]
      exact lasts_ok _ _ more
    · cases punct? c with
      | some p => exact lasts_ok _ cs more
      | none =>
        intro a rest h
        cases h

/-! ## Texts -/

/-- a comment ends with its line -/
theorem skip_above (comment : Bool) (cs more : List Char) :
    skip comment (above cs more) =
      match skip comment cs with
      | [] => skip false more
      | c :: rest => c :: above rest more := by
  induction cs generalizing comment with
  | nil =>
    cases comment with
    | true => rfl
    | false => rfl
  | cons c cs ih =>
    rw [above_cons, skip, skip]
    split_ifs
    · exact ih _
    · exact ih true
    · exact ih false
    · rfl

/-- **The tokens of two texts, one below the other**, if those of the upper one have no defect. -/
theorem tokens_above {cs : List Char} (h : ∀ d, Token.broken d ∉ tokens cs) (more : List Char) :
    tokens (above cs more) = tokens cs ++ tokens more := by
  unfold tokens at h ⊢
  fun_induction lex cs with
  | case1 cs hskip =>
    have hlower : skip false (above cs more) = skip false more := by rw [skip_above, hskip]
    rw [lex_of_skip hlower]
    rfl
  | case2 cs c rest hskip d left hread => exact absurd List.mem_cons_self (h d)
  | case3 cs c rest hskip t rest' hread hlt ih =>
    have hupper : skip false (above cs more) = c :: above rest more := by rw [skip_above, hskip]
    have hlower := ih fun d hd => h d (List.mem_cons_of_mem t hd)
    rw [lex_cons hupper, read_above c rest more t rest' hread, List.map_cons, List.map_cons, List.cons_append, ← hlower]

end SchemaTypings.Sdl
