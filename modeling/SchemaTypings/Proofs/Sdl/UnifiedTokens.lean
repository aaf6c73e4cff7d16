/-
The tokens of a text and of the same text with LF for every line end.

Each reader does the same on both texts (`Corresponds`): it makes the same and leaves texts that correspond, or it stops
at places that do, with defects that are alike (`Defect.Alike`). They differ where a defect shows characters of the text
that end a line. So the two texts have the same tokens up to such a defect at the end, at the same lines and columns
(`lex_unify`).
-/
import SchemaTypings.Proofs.Sdl.Literal
import SchemaTypings.Proofs.Text.LineEnd

namespace SchemaTypings.Sdl

open SchemaTypings.Text SchemaTypings.Text.Line

/-! ## Defects -/

/-- defects that are the same up to the characters of a bad escape -/
def Defect.EscapeAlike (d e : Defect) : Prop :=
  d = e ∨ (∃ t u, d = .badEscape t ∧ e = .badEscape u) ∨ ∃ t u, d = .badUnicodeEscape t ∧ e = .badUnicodeEscape u

/-- the same, and up to the line end where a digit is missing -/
def Defect.Alike (d e : Defect) : Prop :=
  d.EscapeAlike e ∨ d = .digitExpected (some '\r') ∧ e = .digitExpected (some '\n')

theorem Defect.Alike.refl (d : Defect) : d.Alike d := .inl (.inl rfl)

theorem badEscape_alike (t u : String) : Defect.Alike (.badEscape t) (.badEscape u) :=
  .inl (.inr (.inl ⟨t, u, rfl, rfl⟩))

theorem badUnicodeEscape_alike (t u : String) : Defect.Alike (.badUnicodeEscape t) (.badUnicodeEscape u) :=
  .inl (.inr (.inr ⟨t, u, rfl, rfl⟩))

theorem digitExpected_alike (cs : List Char) :
    Defect.Alike (.digitExpected cs.head?) (.digitExpected (unify cs).head?) := by
  rw [head?_unify]
  cases cs with
  | nil => exact .refl _
  | cons c cs =>
    by_cases hc : c = '\r'
    · subst hc
      exact .inr ⟨rfl, rfl⟩
    · rw [List.head?_cons, Option.map_some, if_neg hc]
      exact .refl _

/-! ## Readers -/

variable {α β : Type}

/-- what a reader makes of a text and of the unified text: the same, or defects that are alike, at places that
correspond -/
inductive Corresponds (cs : List Char) :
    Except Fallen (α × List Char) → Except Fallen (α × List Char) → Prop where
  | ok {a : α} {rest : List Char} : Reaches cs rest → Corresponds cs (.ok (a, rest)) (.ok (a, unify rest))
  | error {d e : Defect} {place : List Char} : Reaches cs place → d.Alike e →
      Corresponds cs (.error (d, place.length)) (.error (e, (unify place).length))

variable {bs cs : List Char} {x y : Except Fallen (α × List Char)}

theorem Corresponds.of_reaches (h : Corresponds cs x y) (hcs : Reaches bs cs) : Corresponds bs x y := by
  cases h with
  | ok hrest => exact .ok (hcs.trans hrest)
  | error hplace halike => exact .error (hcs.trans hplace) halike

theorem Corresponds.bind {f : α × List Char → Except Fallen (β × List Char)} (h : Corresponds cs x y)
    (hf : ∀ a rest, Corresponds rest (f (a, rest)) (f (a, unify rest))) : Corresponds cs (x >>= f) (y >>= f) := by
  cases h with
  | ok hrest => exact (hf _ _).of_reaches hrest
  | error hplace halike => exact .error hplace halike

theorem Corresponds.map {f : α × List Char → β × List Char} {g : α → β} (h : Corresponds cs x y)
    (hf : ∀ a rest, f (a, rest) = (g a, rest)) : Corresponds cs (x.map f) (y.map f) := by
  cases h with
  | ok hrest =>
    rw [Except.map, Except.map, hf, hf]
    exact .ok hrest
  | error hplace halike => exact .error hplace halike

/-- a defect at the place where the reader starts -/
theorem Corresponds.here {d e : Defect} (h : d.Alike e) (cs : List Char) :
    Corresponds cs (.error (d, cs.length) : Except Fallen (α × List Char)) (.error (e, (unify cs).length)) :=
  .error (.refl cs) h

/-! ## Numbers -/

theorem readDigits_unify (cs : List Char) : Corresponds cs (readDigits cs) (readDigits (unify cs)) := by
  obtain ⟨htake, hdrop, hreaches⟩ := takeWhile_unify (p := isDigit) rfl rfl cs
  unfold readDigits
  rw [head?_any_unify rfl rfl, htake, hdrop]
  split_ifs
  · exact .ok hreaches
  · exact .here (digitExpected_alike cs) cs

theorem readWhole_unify (cs : List Char) : Corresponds cs (readWhole cs) (readWhole (unify cs)) := by
  rcases first_unify (c := '0') rfl cs with ⟨us, rfl, hunified, hreaches⟩ | ⟨hzero, hzero'⟩
  · rw [hunified]
    by_cases hdigit : us.head?.any isDigit = true
    · cases us with
      | nil => cases hdigit
      | cons c us =>
        rw [List.head?_cons, Option.any_some] at hdigit
        have hcr : c ≠ '\r' := by rintro rfl; cases hdigit
        have hplace := Corresponds.here (α := List Char) (.refl (.digitAfterZero c)) (c :: us)
        rw [unify_cons hcr] at hplace ⊢
        rw [readWhole, readWhole, if_pos hdigit, if_pos hdigit]
        exact hplace.of_reaches hreaches
    · rw [Bool.not_eq_true] at hdigit
      have hdigit' : (unify us).head?.any isDigit = false := by rw [head?_any_unify rfl rfl, hdigit]
      have hread := readWhole_append (.inl rfl) hdigit
      have hread' := readWhole_append (.inl rfl) hdigit'
      rw [List.singleton_append] at hread hread'
      rw [hread, hread']
      exact .ok hreaches
  · rw [readWhole_of_ne hzero, readWhole_of_ne hzero']
    exact readDigits_unify cs

theorem readFraction_unify (cs : List Char) : Corresponds cs (readFraction cs) (readFraction (unify cs)) := by
  rcases first_unify (c := '.') rfl cs with ⟨us, rfl, hunified, hreaches⟩ | ⟨hdot, hdot'⟩
  · rw [hunified]
    have hdigits := (readDigits_unify us).bind (β := List Char) (f := fun x => .ok ('.' :: x.1, x.2)) fun _ rest =>
      .ok (.refl rest)
    exact hdigits.of_reaches hreaches
  · rw [readFraction_of_ne hdot, readFraction_of_ne hdot']
    exact .ok (.refl cs)

/-- a sign is taken from both texts alike -/
theorem sign_unify {p : Char → Bool} (hcr : p '\r' = false) (hlf : p '\n' = false) (cs : List Char) :
    ((unify cs).take 1).filter p = (cs.take 1).filter p ∧
      (unify cs).drop ((cs.take 1).filter p).length = unify (cs.drop ((cs.take 1).filter p).length) ∧
      Reaches cs (cs.drop ((cs.take 1).filter p).length) := by
  have hnone : ∀ us : List Char, us.head?.any p = false → (us.take 1).filter p = [] := by
    intro us hus
    cases us with
    | nil => rfl
    | cons u us => simpa using hus
  cases hp : cs.head?.any p with
  | false =>
    have hunified : (unify cs).head?.any p = false := by rw [head?_any_unify hcr hlf, hp]
    rw [hnone cs hp, hnone _ hunified]
    exact ⟨rfl, rfl, .refl cs⟩
  | true =>
    cases cs with
    | nil => cases hp
    | cons c cs =>
      rw [List.head?_cons, Option.any_some] at hp
      have hc : c ≠ '\r' := by
        rintro rfl
        rw [hcr] at hp
        cases hp
      have hsign : ∀ us : List Char, ((c :: us).take 1).filter p = [c] := fun us => by simp [hp]
      rw [unify_cons hc, hsign, hsign]
      exact ⟨rfl, rfl, reaches_cons hc cs⟩

/-- the digits of an exponent, after its letter -/
theorem readPower_unify {e : Char} (he : e = 'e' ∨ e = 'E') (cs : List Char) :
    Corresponds cs (readExponent (e :: cs)) (readExponent (e :: unify cs)) := by
  obtain ⟨hsign, hdrop, hreaches⟩ := sign_unify (p := fun c => c = '+' || c = '-') rfl rfl cs
  rw [readExponent, readExponent, if_pos he, if_pos he]
  simp only [hsign, hdrop]
  refine Corresponds.of_reaches ((readDigits_unify _).bind fun ds rest => ?_) hreaches
  exact .ok (.refl rest)

theorem readExponent_unify (cs : List Char) : Corresponds cs (readExponent cs) (readExponent (unify cs)) := by
  rcases first_unify (c := 'e') rfl cs with ⟨us, rfl, hunified, hreaches⟩ | ⟨hsmall, hsmall'⟩
  · rw [hunified]
    exact (readPower_unify (.inl rfl) us).of_reaches hreaches
  rcases first_unify (c := 'E') rfl cs with ⟨us, rfl, hunified, hreaches⟩ | ⟨hlarge, hlarge'⟩
  · rw [hunified]
    exact (readPower_unify (.inr rfl) us).of_reaches hreaches
  · rw [readExponent_of_ne ⟨hsmall, hlarge⟩, readExponent_of_ne ⟨hsmall', hlarge'⟩]
    exact .ok (.refl cs)

theorem readNumber_unify (cs : List Char) : Corresponds cs (readNumber cs) (readNumber (unify cs)) := by
  obtain ⟨hsign, hdrop, hreaches⟩ := sign_unify (p := (· = '-')) rfl rfl cs
  unfold readNumber
  simp only [hsign, hdrop]
  refine Corresponds.of_reaches ?_ hreaches
  refine (readWhole_unify _).bind fun whole rest => (readFraction_unify rest).bind fun fraction rest => ?_
  refine (readExponent_unify rest).bind fun exponent rest => ?_
  dsimp only
  rw [head?_any_unify rfl rfl]
  split
  · exact .here (digitExpected_alike rest) rest
  · exact .ok (.refl rest)

/-! ## Strings -/

/-- what an escape makes of a text and of the unified text -/
inductive EscapesAlike (cs : List Char) :
    Except Defect (Char × List Char) → Except Defect (Char × List Char) → Prop where
  | ok {x : Char} {rest : List Char} : Reaches cs rest → EscapesAlike cs (.ok (x, rest)) (.ok (x, unify rest))
  | error {d e : Defect} : d.Alike e → EscapesAlike cs (.error d) (.error e)

theorem EscapesAlike.of_reaches {x y : Except Defect (Char × List Char)} (h : EscapesAlike cs x y)
    (hcs : Reaches bs cs) : EscapesAlike bs x y := by
  cases h with
  | ok hrest => exact .ok (hcs.trans hrest)
  | error halike => exact .error halike

/-- a line end is an LF of the unified text -/
theorem unify_cr (cs : List Char) : ∃ us, unify ('\r' :: cs) = '\n' :: us := by
  by_cases hhead : cs.head? = some '\n'
  · cases cs with
    | nil => cases hhead
    | cons d cs =>
      obtain rfl := Option.some.inj hhead
      exact ⟨_, unify_pair cs⟩
  · exact ⟨_, unify_single fun h => hhead h.2⟩

theorem readWideEscape_unify (done : List Char) (point : Nat) (cs : List Char) :
    EscapesAlike cs (readWideEscape done point cs) (readWideEscape done point (unify cs)) := by
  induction cs generalizing done point with
  | nil => exact .error (.refl _)
  | cons c cs ih =>
    by_cases hcr : c = '\r'
    · subst hcr
      obtain ⟨us, hus⟩ := unify_cr cs
      have hend : hexDigit? '\r' = none ∧ hexDigit? '\n' = none := by decide
      rw [hus, readWideEscape, readWideEscape]
      by_cases hlimit : wideEscapeLimit ≤ done.length
      · rw [if_pos hlimit, if_pos hlimit]
        exact .error (.refl _)
      · rw [if_neg hlimit, if_neg hlimit, if_neg (by decide), if_neg (by decide), hend.1, hend.2]
        exact .error (badUnicodeEscape_alike _ _)
    · rw [unify_cons hcr, readWideEscape, readWideEscape]
      by_cases hlimit : wideEscapeLimit ≤ done.length
      · rw [if_pos hlimit, if_pos hlimit]
        exact .error (.refl _)
      · rw [if_neg hlimit, if_neg hlimit]
        by_cases hbrace : c = '}'
        · rw [if_pos hbrace, if_pos hbrace]
          cases scalar? point with
          | none => exact .error (.refl _)
          | some x =>
            dsimp only
            split_ifs
            · exact .error (.refl _)
            · exact .ok (reaches_cons hcr cs)
        · rw [if_neg hbrace, if_neg hbrace]
          cases hexDigit? c with
          | none => exact .error (.refl _)
          | some d => exact (ih _ _).of_reaches (reaches_cons hcr cs)

/-- the number of four digits at the start of a text -/
def fourDigits? (cs : List Char) : Option Nat := if cs.length < 4 then none else hexNumber? (cs.take 4)

theorem fourDigits?_eq_some {cs : List Char} {n : Nat} :
    fourDigits? cs = some n ↔ ∃ ds rest, ds.length = 4 ∧ hexNumber? ds = some n ∧ cs = ds ++ rest := by
  constructor
  · intro h
    obtain ⟨ds, hlength, hds, hcs⟩ := exists_of_fourDigits h
    exact ⟨ds, _, hlength, hds, hcs⟩
  · rintro ⟨ds, rest, hlength, hds, rfl⟩
    have hlt : ¬(ds ++ rest).length < 4 := by rw [List.length_append]; omega
    rw [fourDigits?, if_neg hlt, ← hlength, List.take_left, hds]

theorem isEnd_of_hexDigits {ds : List Char} {point n : Nat}
    (h : ds.foldlM (fun n c => (hexDigit? c).map (16 * n + ·)) point = some n) : ∀ c ∈ ds, isEnd c = false := by
  induction ds generalizing point with
  | nil => simp
  | cons c ds ih =>
    cases hd : hexDigit? c with
    | none => simp [hd] at h
    | some d =>
      have hc : isEnd c = false := by
        by_contra hend
        rcases isEnd_iff.1 (Bool.not_eq_false _ ▸ hend) with rfl | rfl
        · cases hd
        · cases hd
      have hrest : ds.foldlM (fun n c => (hexDigit? c).map (16 * n + ·)) (16 * point + d) = some n := by
        simpa [hd] using h
      exact List.forall_mem_cons.2 ⟨hc, ih hrest⟩

/-- four digits are the same in both texts -/
theorem fourDigits?_unify (cs : List Char) :
    fourDigits? (unify cs) = fourDigits? cs ∧ ∀ n, fourDigits? cs = some n →
      (unify cs).drop 4 = unify (cs.drop 4) ∧ Reaches cs (cs.drop 4) := by
  constructor
  · refine Option.ext fun n => ?_
    rw [fourDigits?_eq_some, fourDigits?_eq_some]
    constructor
    · rintro ⟨ds, rest, hlength, hds, hcs⟩
      obtain ⟨us, hus, _⟩ := exists_of_unify_eq_append (isEnd_of_hexDigits hds) hcs
      exact ⟨ds, us, hlength, hds, hus⟩
    · rintro ⟨ds, rest, hlength, hds, rfl⟩
      exact ⟨ds, unify rest, hlength, hds, unify_append (fun c hc => ne_cr (isEnd_of_hexDigits hds c hc)) rest⟩
  · intro n hn
    obtain ⟨ds, rest, hlength, hds, rfl⟩ := fourDigits?_eq_some.1 hn
    have hne : ∀ c ∈ ds, c ≠ '\r' := fun c hc => ne_cr (isEnd_of_hexDigits hds c hc)
    have hdrop : ∀ us, (ds ++ us).drop 4 = us := fun us => by rw [← hlength, List.drop_left]
    rw [unify_append hne, hdrop, hdrop]
    exact ⟨rfl, reaches_append hne rest⟩

theorem readFourDigits_unify (cs : List Char) :
    EscapesAlike cs (readFourDigits cs) (readFourDigits (unify cs)) := by
  have hfold : ∀ us : List Char, (if us.length < 4 then none else hexNumber? (us.take 4)) = fourDigits? us :=
    fun _ => rfl
  unfold readFourDigits
  simp only [hfold, (fourDigits?_unify _).1]
  cases hn : fourDigits? cs with
  | none => exact .error (badUnicodeEscape_alike _ _)
  | some n =>
    obtain ⟨hdrop, hreaches⟩ := (fourDigits?_unify cs).2 n hn
    dsimp only
    rw [hdrop]
    cases scalar? n with
    | some c => exact .ok hreaches
    | none =>
      dsimp only
      have hends : ∀ c ∈ ['\\', 'u'], isEnd c = false := by simp [isEnd]
      rcases start_unify hends (cs.drop 4) with ⟨us, hus, hunified, hletters⟩ | ⟨hnone, hnone'⟩
      · rw [List.cons_append, List.cons_append, List.nil_append] at hus hunified
        rw [hunified, hus]
        simp only [(fourDigits?_unify us).1]
        cases hm : fourDigits? us with
        | none => exact .error (badUnicodeEscape_alike _ _)
        | some m =>
          obtain ⟨hdrop', hdigits⟩ := (fourDigits?_unify us).2 m hm
          dsimp only
          rw [hdrop']
          split
          · cases scalar? (joinSurrogates n m) with
            | some c => exact .ok ((hreaches.trans hletters).trans hdigits)
            | none => exact .error (badUnicodeEscape_alike _ _)
          · exact .error (badUnicodeEscape_alike _ _)
      · split
        · next us hus => exact absurd ⟨us, hus⟩ hnone
        · split
          · next us hus => exact absurd ⟨us, hus⟩ hnone'
          · exact .error (badUnicodeEscape_alike _ _)

theorem readEscape_unify (cs : List Char) : EscapesAlike cs (readEscape cs) (readEscape (unify cs)) := by
  cases cs with
  | nil => exact .error (.refl _)
  | cons c cs =>
    by_cases hcr : c = '\r'
    · subst hcr
      obtain ⟨us, hus⟩ := unify_cr cs
      rw [hus]
      exact .error (badEscape_alike _ _)
    rw [unify_cons hcr]
    refine EscapesAlike.of_reaches ?_ (reaches_cons hcr cs)
    by_cases hu : c = 'u'
    · subst hu
      rcases first_unify (c := '{') rfl cs with ⟨us, rfl, hunified, hreaches⟩ | ⟨hbrace, hbrace'⟩
      · rw [hunified]
        exact (readWideEscape_unify _ _ us).of_reaches hreaches
      · rw [readEscape_four hbrace, readEscape_four hbrace']
        exact readFourDigits_unify cs
    · rw [readEscape_eq hu, readEscape_eq hu]
      cases escapeLetter? c with
      | none => exact .error (.refl _)
      | some x => exact .ok (.refl cs)

theorem readString_fault {cs : List Char} {d : Defect} (h : readEscape cs = .error d) :
    readString ('\\' :: cs) = .error (d, cs.length + 1) := by
  rw [readString]
  split
  · next he =>
    rw [h] at he
    obtain rfl := Except.error.inj he
    rfl
  · next he =>
    rw [h] at he
    cases he

theorem readString_backslash {cs rest : List Char} {x : Char} (h : readEscape cs = .ok (x, rest)) :
    readString ('\\' :: cs) = (readString rest).map fun p => (x :: p.1, p.2) := by
  cases hread : readString rest with
  | ok p => exact readString_escape h hread
  | error e =>
    rw [readString]
    split
    · next he =>
      rw [h] at he
      cases he
    · next he =>
      rw [h] at he
      obtain ⟨rfl, rfl⟩ := Prod.mk.inj (Except.ok.inj he)
      rw [hread]

theorem readString_end {c : Char} (h : isEnd c = true) (cs : List Char) :
    readString (c :: cs) = .error (.openString, cs.length + 1) := by
  rw [readString, if_pos h]
  · rintro rfl; cases h
  · rintro rfl; cases h

theorem readString_plain {c : Char} (hquote : c ≠ '"') (hslash : c ≠ '\\') (hend : isEnd c = false) (cs : List Char) :
    readString (c :: cs) = (readString cs).map fun p => (c :: p.1, p.2) := by
  rw [readString, if_neg (by simp [hend])]
  · exact hquote
  · exact hslash

theorem readString_unify (cs : List Char) : Corresponds cs (readString cs) (readString (unify cs)) := by
  fun_induction readString cs with
  | case1 =>
    rw [unify, readString]
    exact .here (.refl _) []
  | case2 rest =>
    rw [unify_cons (by decide), readString]
    exact .ok (reaches_cons (by decide) rest)
  | case3 rest d he =>
    have halike := readEscape_unify rest
    rw [he] at halike
    generalize hunified : readEscape (unify rest) = y at halike
    cases halike with
    | @error _ e halike =>
      have hplace := Corresponds.here (α := List Char) halike ('\\' :: rest)
      rw [unify_cons (by decide)] at hplace ⊢
      rw [readString_fault hunified]
      exact hplace
  | case4 rest x rest' he hlt ih =>
    have halike := readEscape_unify rest
    rw [he] at halike
    generalize hunified : readEscape (unify rest) = y at halike
    cases halike with
    | ok hreaches =>
      rw [unify_cons (by decide), readString_backslash hunified]
      exact (ih.map fun _ _ => rfl).of_reaches ((reaches_cons (by decide) rest).trans hreaches)
  | case5 c rest hquote hslash hend =>
    have hplace := Corresponds.here (α := List Char) (.refl .openString) (c :: rest)
    obtain ⟨us, hus⟩ : ∃ us, unify (c :: rest) = (if c = '\r' then '\n' else c) :: us := by
      by_cases hcr : c = '\r'
      · subst hcr
        exact unify_cr rest
      · exact ⟨_, by rw [unify_cons hcr, if_neg hcr]⟩
    rw [hus] at hplace ⊢
    rw [readString_end ((isEnd_unified c).trans hend)]
    exact hplace
  | case6 c rest hquote hslash hend ih =>
    have hplain : isEnd c = false := by simpa using hend
    have hcr := ne_cr hplain
    rw [unify_cons hcr, readString_plain hquote hslash hplain]
    exact (ih.map fun _ _ => rfl).of_reaches (reaches_cons hcr rest)

/-! ## Block strings -/

/-- a block string has the same value in both texts -/
theorem blockValue_unify (raw : List Char) : blockValue (unify raw) = blockValue raw := by
  unfold blockValue
  rw [split_unify]

theorem readBlock_escape (cs : List Char) :
    readBlock ('\\' :: (tripleQuote ++ cs)) = (readBlock cs).map fun p => (tripleQuote ++ p.1, p.2) := rfl

theorem readBlock_plain {c : Char} {cs : List Char} (hclose : ¬ tripleQuote <+: c :: cs)
    (hescape : ¬ '\\' :: tripleQuote <+: c :: cs) :
    readBlock (c :: cs) = (readBlock cs).map fun p => (c :: p.1, p.2) := by
  rw [readBlock]
  · rintro us rfl rfl
    exact hclose ⟨us, rfl⟩
  · rintro us rfl rfl
    exact hescape ⟨us, rfl⟩

theorem readBlock_of_ne {c : Char} (hquote : c ≠ '"') (hslash : c ≠ '\\') (cs : List Char) :
    readBlock (c :: cs) = (readBlock cs).map fun p => (c :: p.1, p.2) := by
  refine readBlock_plain ?_ ?_
  · rintro ⟨us, hus⟩
    exact hquote (List.cons.inj hus).1.symm
  · rintro ⟨us, hus⟩
    exact hslash (List.cons.inj hus).1.symm

/-- the characters of a block string start with an LF only if the text does -/
theorem head?_of_readBlock {cs : List Char} {p : List Char × List Char} (h : readBlock cs = some p)
    (hhead : p.1.head? = some '\n') : cs.head? = some '\n' := by
  fun_cases readBlock cs with
  | case1 => cases h
  | case2 rest =>
    obtain rfl := Option.some.inj h
    cases hhead
  | case3 us =>
    obtain ⟨q, _, rfl⟩ := Option.map_eq_some_iff.1 h
    cases hhead
  | case4 c us hclose hescape =>
    rw [readBlock] at h
    · obtain ⟨q, _, rfl⟩ := Option.map_eq_some_iff.1 h
      exact hhead
    · exact hclose
    · exact hescape

/-- what a reader of block strings makes of both texts -/
def BlocksAlike (cs : List Char) : Prop :=
  readBlock (unify cs) = (readBlock cs).map (fun p => (unify p.1, unify p.2)) ∧
    ∀ p, readBlock cs = some p → Reaches cs p.2

/-- a character before the rest of a block string, which is not the CR of a CR LF -/
theorem BlocksAlike.cons {c : Char} {cs : List Char} (h : BlocksAlike cs) (hc : IsSingle c cs)
    (hclose : ¬ tripleQuote <+: c :: cs) (hescape : ¬ '\\' :: tripleQuote <+: c :: cs) : BlocksAlike (c :: cs) := by
  have hread := readBlock_plain hclose hescape
  have hmarks : ∀ d ∈ tripleQuote, isEnd d = false := by simp [tripleQuote, isEnd]
  have hmarks' : ∀ d ∈ '\\' :: tripleQuote, isEnd d = false := by simp [tripleQuote, isEnd]
  have hclose' : ¬ tripleQuote <+: (if c = '\r' then '\n' else c) :: unify cs := by
    rw [← unify_single hc, prefix_unify hmarks]
    exact hclose
  have hescape' : ¬ '\\' :: tripleQuote <+: (if c = '\r' then '\n' else c) :: unify cs := by
    rw [← unify_single hc, prefix_unify hmarks']
    exact hescape
  have hread' := readBlock_plain hclose' hescape'
  refine ⟨?_, fun p hp => ?_⟩
  · rw [unify_single hc, hread', hread, h.1]
    cases hrest : readBlock cs with
    | none => rfl
    | some p =>
      have hsingle : IsSingle c p.1 := fun hcr => hc ⟨hcr.1, head?_of_readBlock hrest hcr.2⟩
      simp only [Option.map_some, unify_single hsingle]
  · rw [hread] at hp
    obtain ⟨q, hq, rfl⟩ := Option.map_eq_some_iff.1 hp
    exact .single hc (h.2 q hq)

/-- the CR of a CR LF adds nothing to the unified text -/
theorem BlocksAlike.pair {cs : List Char} (h : BlocksAlike ('\n' :: cs)) : BlocksAlike ('\r' :: '\n' :: cs) := by
  have hreturn := readBlock_of_ne (c := '\r') (by decide) (by decide) ('\n' :: cs)
  have hfeed := readBlock_of_ne (c := '\n') (by decide) (by decide) cs
  have hunified : unify ('\r' :: '\n' :: cs) = unify ('\n' :: cs) := by rw [unify_pair, unify_cons (by decide)]
  refine ⟨?_, fun p hp => ?_⟩
  · rw [hunified, h.1, hreturn, hfeed]
    cases readBlock cs with
    | none => rfl
    | some p => simp
  · rw [hreturn] at hp
    obtain ⟨q, hq, rfl⟩ := Option.map_eq_some_iff.1 hp
    have hlength : q.2.length ≤ cs.length := by
      rw [hfeed] at hq
      obtain ⟨o, ho, rfl⟩ := Option.map_eq_some_iff.1 hq
      exact length_readBlock (v := o.1) ho
    have hreaches := h.2 q hq
    dsimp only
    generalize q.2 = us at hreaches hlength ⊢
    cases hreaches with
    | refl _ => exact absurd hlength (by simp)
    | single _ hreaches => exact .pair hreaches

/-- **Block strings are read alike**, line ends in them as LF. -/
theorem readBlock_unify (cs : List Char) : BlocksAlike cs := by
  have hmarks : ∀ d ∈ tripleQuote, d ≠ '\r' := by simp [tripleQuote]
  fun_induction readBlock cs with
  | case1 => exact ⟨rfl, fun p hp => by cases hp⟩
  | case2 rest =>
    refine ⟨?_, fun p hp => ?_⟩
    · rw [unify_cons (by decide), unify_cons (by decide), unify_cons (by decide)]
      rfl
    · obtain rfl := Option.some.inj hp
      exact reaches_append hmarks rest
  | case3 rest ih =>
    refine ⟨?_, fun p hp => ?_⟩
    · show readBlock (unify ('\\' :: (tripleQuote ++ rest))) = (readBlock ('\\' :: (tripleQuote ++ rest))).map _
      rw [unify_cons (by decide), unify_append hmarks, readBlock_escape, readBlock_escape, ih.1]
      cases readBlock rest with
      | none => rfl
      | some p => simp only [Option.map_some, unify_append hmarks]
    · obtain ⟨q, hq, rfl⟩ := Option.map_eq_some_iff.1 hp
      exact ((reaches_cons (by decide) _).trans (reaches_append hmarks rest)).trans (ih.2 q hq)
  | case4 c rest hclose hescape ih =>
    by_cases hpair : c = '\r' ∧ rest.head? = some '\n'
    · obtain ⟨rfl, hhead⟩ := hpair
      cases rest with
      | nil => cases hhead
      | cons d rest =>
        obtain rfl := Option.some.inj hhead
        exact ih.pair
    · refine ih.cons hpair ?_ ?_
      · rintro ⟨us, hus⟩
        obtain ⟨rfl, rfl⟩ := List.cons.inj hus
        exact hclose us rfl rfl
      · rintro ⟨us, hus⟩
        obtain ⟨rfl, rfl⟩ := List.cons.inj hus
        exact hescape us rfl rfl

/-! ## Tokens -/

theorem readDots_single {cs : List Char} (h : cs.head? ≠ some '.') :
    readDots ('.' :: cs) = .error (.twoDots, cs.length + 2) := by
  unfold readDots
  split
  · next heq =>
    rw [(List.cons.inj heq).2] at h
    exact absurd rfl h
  · next heq => rw [List.length_cons]
  · next hne heq => exact absurd (List.cons.inj heq).1.symm hne
  · next heq => cases heq

theorem readDots_of_ne {cs : List Char} (h : cs.head? ≠ some '.') :
    readDots cs = if cs.head?.any isDigit then
        .error (.digitBeforeDot (String.ofList (cs.takeWhile isDigit)), cs.length + 1)
      else .error (.strayCharacter '.', cs.length + 1) := by
  cases cs with
  | nil => rfl
  | cons c cs =>
    have hc : c ≠ '.' := fun hc => h (congrArg some hc)
    rw [readDots]
    · rfl
    · exact fun _ hdot _ => hc hdot
    · exact fun hdot => hc hdot

theorem readDots_unify (cs : List Char) : Corresponds ('.' :: cs) (readDots cs) (readDots (unify cs)) := by
  have hplace : ∀ {d : Defect}, Corresponds ('.' :: cs) (.error (d, cs.length + 1) : Except Fallen (Token × List Char))
      (.error (d, (unify cs).length + 1)) := by
    intro d
    have hhere := Corresponds.here (α := Token) (.refl d) ('.' :: cs)
    rwa [unify_cons (by decide)] at hhere
  rcases first_unify (c := '.') rfl cs with ⟨us, rfl, hunified, hreaches⟩ | ⟨hdot, hdot'⟩
  · rw [hunified] at hplace ⊢
    rcases first_unify (c := '.') rfl us with ⟨vs, rfl, hunified', hreaches'⟩ | ⟨hnext, hnext'⟩
    · rw [hunified']
      exact .ok ((reaches_cons (by decide) _).trans (hreaches.trans hreaches'))
    · rw [readDots_single hnext, readDots_single hnext']
      exact hplace
  · rw [readDots_of_ne hdot, readDots_of_ne hdot', head?_any_unify rfl rfl,
      (takeWhile_unify (p := isDigit) rfl rfl cs).1]
    split
    · exact hplace
    · exact hplace

theorem readQuoted_unify (cs : List Char) : Corresponds ('"' :: cs) (read '"' cs) (read '"' (unify cs)) := by
  have hends : ∀ c ∈ ['"', '"'], isEnd c = false := by simp [isEnd]
  rcases start_unify hends cs with ⟨rest, rfl, hunified, hquotes⟩ | ⟨htwo, htwo'⟩
  · have hstart : Reaches ('"' :: (['"', '"'] ++ rest)) rest := (reaches_cons (by decide) _).trans hquotes
    obtain ⟨hread, hreaches⟩ := readBlock_unify rest
    rw [hunified]
    dsimp only [List.cons_append, List.nil_append] at hstart ⊢
    rw [read_tripleQuote, read_tripleQuote, hread]
    cases hblock : readBlock rest with
    | none => exact .error (reaches_nil _) (.refl _)
    | some p =>
      simp only [Option.map_some, Option.elim_some, blockValue_unify]
      exact .ok (hstart.trans (hreaches p hblock))
  · rw [read_quote htwo, read_quote htwo']
    refine Corresponds.of_reaches ?_ (reaches_cons (by decide) cs)
    exact (readString_unify cs).map (g := fun v => Token.string (String.ofList v)) fun _ _ => rfl

/-- **A token is read alike from both texts.** -/
theorem read_unify {c : Char} (hc : isEnd c = false) (cs : List Char) :
    Corresponds (c :: cs) (read c cs) (read c (unify cs)) := by
  have hcr := ne_cr hc
  by_cases hdot : c = '.'
  · subst hdot
    exact readDots_unify cs
  by_cases hquote : c = '"'
  · subst hquote
    exact readQuoted_unify cs
  unfold read
  rw [if_neg hdot, if_neg hquote, if_neg hdot, if_neg hquote]
  split
  · rw [← unify_cons hcr]
    exact readNumber_unify (c :: cs)
  · split
    · obtain ⟨htake, hdrop, hreaches⟩ := takeWhile_unify (p := isNameCharacter) rfl rfl cs
      rw [htake, hdrop]
      exact .ok ((reaches_cons hcr cs).trans hreaches)
    · cases punct? c with
      | some p => exact .ok (reaches_cons hcr cs)
      | none =>
        have hhere := Corresponds.here (α := Token) (.refl (.strayCharacter c)) (c :: cs)
        rwa [unify_cons hcr] at hhere

theorem skip_end {c : Char} (h : isEnd c = true) (comment : Bool) (cs : List Char) :
    skip comment (c :: cs) = skip false cs := by
  have hc : c ≠ '#' ∧ isSeparator c = true := by
    rcases isEnd_iff.1 h with rfl | rfl
    · decide
    · decide
  cases comment with
  | true => rw [skip, if_pos rfl, h, Bool.not_true]
  | false => rw [skip, if_neg Bool.false_ne_true, if_neg hc.1, if_pos hc.2]

/-- **The same is skipped in both texts.** -/
theorem skip_unify (comment : Bool) (cs : List Char) :
    skip comment (unify cs) = unify (skip comment cs) ∧ Reaches cs (skip comment cs) := by
  induction cs using unify_induction generalizing comment with
  | nil => exact ⟨rfl, .refl []⟩
  | pair cs ih =>
    rw [unify_pair, skip_end rfl, skip_end rfl, skip_end rfl]
    exact ⟨(ih false).1, .pair (ih false).2⟩
  | single c cs hc ih =>
    by_cases hend : isEnd c = true
    · rw [unify_single hc, skip_end ((isEnd_unified c).trans hend), skip_end hend]
      exact ⟨(ih false).1, .single hc (ih false).2⟩
    · have hcr : c ≠ '\r' := by rintro rfl; exact hend rfl
      rw [unify_cons hcr, skip, skip]
      split_ifs
      · exact ⟨(ih _).1, .single hc (ih _).2⟩
      · exact ⟨(ih _).1, .single hc (ih _).2⟩
      · exact ⟨(ih _).1, .single hc (ih _).2⟩
      · exact ⟨(unify_cons hcr cs).symm, .refl _⟩

theorem isEnd_of_skip {comment : Bool} {cs rest : List Char} {c : Char} (h : skip comment cs = c :: rest) :
    isEnd c = false := by
  fun_induction skip comment cs with
  | case1 => cases h
  | case2 d cs ih => exact ih h
  | case3 comment cs hcomment ih => exact ih h
  | case4 comment d cs hcomment hhash hsep ih => exact ih h
  | case5 comment d cs hcomment hhash hsep =>
    obtain ⟨rfl, rfl⟩ := List.cons.inj h
    by_contra hend
    rcases isEnd_iff.1 (Bool.not_eq_false _ ▸ hend) with rfl | rfl
    · exact hsep rfl
    · exact hsep rfl

/-- tokens that are the same, or broken alike -/
def Token.Alike (t u : Token) : Prop := t = u ∨ ∃ d e, t = .broken d ∧ u = .broken e ∧ d.Alike e

/-- tokens that are alike, at the same place of a text and of the unified text -/
structure LexemesAlike (text : List Char) (l m : Lexeme) : Prop where
  tokens : l.token.Alike m.token
  places : ∃ rest, Reaches text rest ∧ l.left = rest.length ∧ m.left = (unify rest).length

theorem LexemesAlike.of_reaches {text : List Char} {l m : Lexeme} (h : LexemesAlike cs l m) (hcs : Reaches text cs) :
    LexemesAlike text l m := by
  obtain ⟨rest, hrest, hl, hm⟩ := h.places
  exact ⟨h.tokens, rest, hcs.trans hrest, hl, hm⟩

/-- what is skipped before a token is skipped in the unified text too -/
theorem skip_unify_cons {cs rest : List Char} {c : Char} (hskip : skip false cs = c :: rest) :
    isEnd c = false ∧ skip false (unify cs) = c :: unify rest ∧ Reaches cs (c :: rest) := by
  have hend := isEnd_of_skip hskip
  have hcr := ne_cr hend
  obtain ⟨hunified, hreaches⟩ := skip_unify false cs
  rw [hskip] at hunified hreaches
  exact ⟨hend, hunified.trans (unify_cons hcr rest), hreaches⟩

/-- **A text and the unified text have the same tokens at the same places**, up to a last one that is broken alike. -/
theorem lex_unify (cs : List Char) : List.Forall₂ (LexemesAlike cs) (lex cs) (lex (unify cs)) := by
  fun_induction lex cs with
  | case1 cs hskip =>
    have hunified : skip false (unify cs) = [] := by rw [(skip_unify false cs).1, hskip, unify]
    rw [lex_nil hunified]
    exact .nil
  | case2 cs c rest hskip d left hread =>
    obtain ⟨hend, hunified, hreaches⟩ := skip_unify_cons hskip
    have halike := read_unify hend rest
    rw [hread] at halike
    rw [lex_cons hunified]
    generalize read c (unify rest) = y at halike
    cases halike with
    | @error _ e place hplace hdefects =>
      have htokens : Token.Alike (.broken d) (.broken e) := .inr ⟨d, e, rfl, rfl, hdefects⟩
      exact .cons ⟨htokens, place, hreaches.trans hplace, rfl, rfl⟩ .nil
  | case3 cs c rest hskip t rest' hread hlt ih =>
    obtain ⟨hend, hunified, hreaches⟩ := skip_unify_cons hskip
    have hcr := ne_cr hend
    have halike := read_unify hend rest
    rw [hread] at halike
    rw [lex_cons hunified]
    generalize read c (unify rest) = y at halike
    cases halike with
    | ok hrest =>
      have hlength : (unify (c :: rest)).length = (unify rest).length + 1 := by rw [unify_cons hcr, List.length_cons]
      refine .cons ⟨.inl rfl, c :: rest, hreaches, rfl, hlength.symm⟩ ?_
      exact ih.imp fun l m h => h.of_reaches (hreaches.trans hrest)

end SchemaTypings.Sdl
