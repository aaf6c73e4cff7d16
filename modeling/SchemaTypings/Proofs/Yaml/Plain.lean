/-
Plain scalars are read back.

A text that is written plain is words with blanks between them (`IsPlain`): no word starts a comment, and no colon ends
a word. `readPlainFrom_writePlain` is by induction over the words. What stands between two of them is the blanks
themselves, or for a single blank the end of a line that is folded.
-/
import SchemaTypings.Proofs.Text.Span
import SchemaTypings.Proofs.Yaml.Ascii

namespace SchemaTypings.Yaml

open SchemaTypings.Text

/-- texts that can be written plain, as far as the extent of a plain scalar is concerned -/
structure IsPlain (cs : List Char) : Prop where
  ne_nil : cs ≠ []
  printable : ∀ c ∈ cs, isAsciiPrintable c = true
  head_blank : cs.head? ≠ some ' '
  head_hash : cs.head? ≠ some '#'
  last_blank : cs.getLast? ≠ some ' '
  colon : ∀ a b, cs = a ++ ':' :: b → atWordEnd b = false
  hash : ∀ a b, cs = a ++ ' ' :: b → b.head? ≠ some '#'

/-! ## Which texts are plain -/

theorem hasInnerMark_append {spaced : Bool} {a b : List Char} (h : hasInnerMark spaced (a ++ b) = false) :
    ∃ s, hasInnerMark s b = false := by
  induction a generalizing spaced with
  | nil => exact ⟨spaced, h⟩
  | cons c a ih =>
    rw [List.cons_append, hasInnerMark, Bool.or_eq_false_iff] at h
    exact ih h.2

theorem atWordEnd_of_hasInnerMark {spaced : Bool} {a b : List Char} (h : hasInnerMark spaced (a ++ ':' :: b) = false) :
    atWordEnd b = false := by
  obtain ⟨s, hs⟩ := hasInnerMark_append h
  simp only [hasInnerMark, Bool.or_eq_false_iff, decide_true, Bool.true_and] at hs
  exact hs.1.1

theorem head?_of_hasInnerMark {spaced : Bool} {a b : List Char} (h : hasInnerMark spaced (a ++ ' ' :: b) = false) :
    b.head? ≠ some '#' := by
  obtain ⟨s, hs⟩ := hasInnerMark_append h
  rw [hasInnerMark, Bool.or_eq_false_iff] at hs
  cases b with
  | nil => simp
  | cons c b =>
    rw [List.head?_cons, ne_eq, Option.some.injEq]
    rintro rfl
    simp [hasInnerMark, atWordEnd, isSpace, isBlank] at hs

theorem isPlain_of_canBePlain {cs : List Char} (hne : cs ≠ []) (hdouble : needsDouble cs = false)
    (h : canBePlain cs = true) : IsPlain cs := by
  simp only [canBePlain, Bool.and_eq_true, decide_eq_true_eq, Bool.not_eq_true'] at h
  obtain ⟨⟨⟨⟨⟨⟨⟨_, hhead⟩, hlast⟩, hbreak⟩, _⟩, _⟩, hfirst⟩, hinner⟩ := h
  obtain ⟨c, t, rfl⟩ := List.exists_cons_of_ne_nil hne
  rw [List.drop_one, List.tail_cons] at hinner
  refine ⟨hne, fun d hd => ?_, by simpa using hhead, ?_, by simpa using hlast, ?_, ?_⟩
  · have hnl : isBreak d = false := by simpa using List.any_eq_false.1 hbreak d hd
    have hd := List.any_eq_false.1 hdouble d hd
    simp only [isBreak, Bool.or_eq_false_iff, decide_eq_false_iff_not] at hnl
    simpa [hnl.1.1.1] using hd
  · rw [List.head?_cons, ne_eq, Option.some.injEq]
    rintro rfl
    simp [hasFirstMark] at hfirst
  · rintro (_ | ⟨a, as⟩) b hsplit
    · obtain ⟨rfl, rfl⟩ := List.cons.inj hsplit
      simp only [hasFirstMark, Bool.or_eq_false_iff] at hfirst
      simpa using hfirst.2
    · obtain ⟨rfl, rfl⟩ := List.cons.inj hsplit
      exact atWordEnd_of_hasInnerMark hinner
  · rintro (_ | ⟨a, as⟩) b hsplit
    · obtain ⟨rfl, rfl⟩ := List.cons.inj hsplit
      exact absurd rfl hhead
    · obtain ⟨rfl, rfl⟩ := List.cons.inj hsplit
      exact head?_of_hasInnerMark hinner

namespace IsPlain

variable {cs : List Char}

theorem isSpace_of_ne (h : IsPlain cs) {c : Char} (hc : c ∈ cs) (hb : c ≠ ' ') : isSpace c = false :=
  isSpace_of_isAsciiPrintable (h.printable c hc) hb

/-- what follows a blank is plain too -/
theorem tail {w : List Char} {c : Char} {r : List Char} (h : IsPlain (w ++ ' ' :: c :: r)) (hc : c ≠ ' ') :
    IsPlain (c :: r) := by
  have hmem : ∀ d ∈ c :: r, d ∈ w ++ ' ' :: c :: r := fun d hd => List.mem_append_right w (List.mem_cons_of_mem _ hd)
  refine ⟨by simp, fun d hd => h.printable d (hmem d hd), by simpa using hc,
    by simpa using h.hash w (c :: r) rfl, ?_, ?_, ?_⟩
  · have hlast := h.last_blank
    rwa [List.getLast?_append_of_ne_nil _ (by simp), List.getLast?_cons_cons] at hlast
  · intro a b hab
    exact h.colon (w ++ ' ' :: a) b (by rw [hab]; simp)
  · intro a b hab
    exact h.hash (w ++ ' ' :: a) b (by rw [hab]; simp)

/-- a plain text is a word, alone or before blanks and a plain text -/
theorem exists_word (h : IsPlain cs) :
    ∃ w : List Char, w ≠ [] ∧ (∀ c ∈ w, c ≠ ' ') ∧
      (cs = w ∨ ∃ blanks c r, blanks ≠ [] ∧ (∀ b ∈ blanks, b = ' ') ∧ c ≠ ' ' ∧
        cs = w ++ (blanks ++ c :: r) ∧ IsPlain (c :: r)) := by
  obtain ⟨w, r, rfl, hw, hr⟩ := exists_span (fun c => decide (c ≠ ' ')) cs
  have hword : ∀ c ∈ w, c ≠ ' ' := fun c hc => by simpa using hw c hc
  cases r with
  | nil => exact ⟨w, by simpa using h.ne_nil, hword, .inl (List.append_nil w)⟩
  | cons b r =>
    obtain rfl : b = ' ' := by simpa using hr
    have hne : w ≠ [] := by
      rintro rfl
      exact h.head_blank rfl
    obtain ⟨bs, rest, rfl, hbs, hrest⟩ := exists_span (fun c => decide (c = ' ')) r
    have hblank : ∀ b ∈ ' ' :: bs, b = ' ' := List.forall_mem_cons.2 ⟨rfl, fun b hb => by simpa using hbs b hb⟩
    -- blanks cannot be at the end, so that a word follows them
    obtain ⟨before, b, hbefore⟩ := (List.eq_nil_or_concat (' ' :: bs)).resolve_left (by simp)
    rw [List.concat_eq_append] at hbefore
    obtain rfl : b = ' ' := hblank b (by rw [hbefore]; simp)
    cases rest with
    | nil =>
      have hlast := h.last_blank
      rw [List.append_nil, hbefore, ← List.append_assoc] at hlast
      simp at hlast
    | cons c rest =>
      have hc : c ≠ ' ' := by simpa using hrest
      refine ⟨w, hne, hword, .inr ⟨' ' :: bs, c, rest, by simp, hblank, hc, rfl, ?_⟩⟩
      refine IsPlain.tail (w := w ++ before) ?_ hc
      have happ : w ++ before ++ ' ' :: c :: rest = w ++ ((before ++ [' ']) ++ c :: rest) := by simp
      rw [happ, ← hbefore]
      exact h

end IsPlain

/-! ## Writing words -/

theorem writePlain_word {w : List Char} (hw : ∀ c ∈ w, c ≠ ' ') (hne : w ≠ []) (column : Nat) (inner : Bool)
    (r : List Char) :
    ∃ after, writePlain column inner (w ++ r) = w ++ writePlain after true r := by
  induction w generalizing column inner with
  | nil => exact absurd rfl hne
  | cons c w ih =>
    rw [List.cons_append, writePlain, if_neg (hw c List.mem_cons_self)]
    cases w with
    | nil => exact ⟨_, rfl⟩
    | cons d w =>
      obtain ⟨after, h⟩ := ih (fun e he => hw e (List.mem_cons_of_mem c he)) (by simp) (column + 1) true
      exact ⟨after, by rw [h]; rfl⟩

/-- blanks after a blank are never the end of a line -/
theorem writePlain_moreBlanks {bs : List Char} (hbs : ∀ b ∈ bs, b = ' ') (column : Nat) (r : List Char) :
    ∃ after, writePlain column false (bs ++ r) = bs ++ writePlain after false r := by
  induction bs generalizing column with
  | nil => exact ⟨column, rfl⟩
  | cons b bs ih =>
    obtain ⟨after, h⟩ := ih (fun d hd => hbs d (List.mem_cons_of_mem b hd)) (column + 1)
    rw [List.cons_append, writePlain, if_pos (hbs b List.mem_cons_self), if_neg (by simp), h, hbs b List.mem_cons_self]
    exact ⟨after, rfl⟩

/-- blanks before a word are written as they are, or as the end of a line if there is only one -/
theorem writePlain_blanks {blanks : List Char} (hne : blanks ≠ []) (hblanks : ∀ b ∈ blanks, b = ' ') (column : Nat)
    (c : Char) (r : List Char) :
    (∃ after, writePlain column true (blanks ++ c :: r) = blanks ++ writePlain after false (c :: r)) ∨
      (blanks = [' '] ∧ writePlain column true (blanks ++ c :: r) = foldedLine ++ writePlain foldIndent true (c :: r)) := by
  obtain ⟨b, bs, rfl⟩ := List.exists_cons_of_ne_nil hne
  obtain rfl : b = ' ' := hblanks b List.mem_cons_self
  have hbs : ∀ b ∈ bs, b = ' ' := fun b hb => hblanks b (List.mem_cons_of_mem _ hb)
  rw [List.cons_append, writePlain, if_pos rfl]
  split_ifs with hfold
  · cases bs with
    | nil => exact .inr ⟨rfl, rfl⟩
    | cons d bs =>
      rw [hbs d List.mem_cons_self] at hfold
      exact absurd rfl hfold.2.2
  · obtain ⟨after, h⟩ := writePlain_moreBlanks hbs (column + 1) (c :: r)
    exact .inl ⟨after, by rw [h]; rfl⟩

theorem exists_writePlain {c : Char} (hc : c ≠ ' ') (column : Nat) (inner : Bool) (r : List Char) :
    ∃ x, writePlain column inner (c :: r) = c :: x := by
  rw [writePlain, if_neg hc]
  exact ⟨_, rfl⟩

/-! ## Reading words -/

theorem endsChunk_cons {c : Char} {w r : List Char} (hc : isSpace c = false) (hw : ∀ d ∈ w, isSpace d = false)
    (hcolon : c = ':' → w ≠ []) : endsChunk false (c :: (w ++ r)) = false := by
  rw [endsChunk, hc]
  by_cases h : c = ':'
  · obtain ⟨d, ds, rfl⟩ := List.exists_cons_of_ne_nil (hcolon h)
    simp [atSpace, hw d List.mem_cons_self]
  · simp [h]

theorem readChunk_word {w r : List Char} (hw : ∀ c ∈ w, isSpace c = false) (hcolon : ∀ a b, w = a ++ ':' :: b → b ≠ [])
    (hr : endsChunk false r = true) : readChunk false (w ++ r) = (w, r) := by
  induction w with
  | nil =>
    cases r with
    | nil => rfl
    | cons c r => rw [List.nil_append, readChunk, if_pos hr]
  | cons c w ih =>
    have hw' : ∀ d ∈ w, isSpace d = false := fun d hd => hw d (List.mem_cons_of_mem c hd)
    have hgoes : endsChunk false (c :: (w ++ r)) = false :=
      endsChunk_cons (hw c List.mem_cons_self) hw' fun h => hcolon [] w (by rw [h]; rfl)
    have hrest := ih hw' fun a b hab => hcolon (c :: a) b (by rw [hab]; rfl)
    rw [List.cons_append, readChunk, hgoes, hrest]
    rfl

theorem readGap_blanks {blanks : List Char} (hblanks : ∀ b ∈ blanks, b = ' ') {c : Char} (hc : isSpace c = false)
    (r : List Char) : readGap (blanks ++ c :: r) = ⟨blanks, c :: r, none⟩ := by
  rw [isSpace, Bool.or_eq_false_iff, isBlank, Bool.or_eq_false_iff, decide_eq_false_iff_not] at hc
  obtain ⟨htake, hdrop⟩ := takeWhile_append_stop (p := fun c => decide (c = ' '))
    (fun b hb => by simpa using hblanks b hb)
      (show ((c :: r).head?.any fun d => decide (d = ' ')) = false by simpa using hc.1.1)
  unfold readGap
  rw [htake, hdrop]
  simp [hc.2]

/-- a folded line is a blank between two words -/
theorem readGap_fold {c : Char} (hc : isSpace c = false) (r : List Char) :
    readGap (foldedLine ++ c :: r) = ⟨[' '], c :: r, some foldIndent⟩ := by
  rw [isSpace, Bool.or_eq_false_iff, isBlank, Bool.or_eq_false_iff, decide_eq_false_iff_not] at hc
  show readGap ('\n' :: ' ' :: ' ' :: c :: r) = _
  have hmark : atDocumentMark (' ' :: ' ' :: c :: r) = false := by simp [atDocumentMark]
  have hlines : readLines 0 (' ' :: ' ' :: c :: r) = (some [], c :: r, 2) := by simp [readLines, hc.1.1, hc.2]
  have hbreak : isBreak '\n' = true := rfl
  unfold readGap
  simp [hmark, hlines, hbreak, breakValue, foldBreaks, foldIndent]

/-- a line end before a line that is not indented ends the scalar -/
theorem readGap_end {more : List Char} (hspace : more.head?.any isSpace = false) (hmark : atDocumentMark more = false) :
    readGap ('\n' :: more) = ⟨[' '], more, some 0⟩ := by
  have hlines : readLines 0 more = (some [], more, 0) := by
    cases more with
    | nil => rfl
    | cons c r =>
      rw [List.head?_cons, Option.any_some, isSpace, Bool.or_eq_false_iff, isBlank, Bool.or_eq_false_iff,
        decide_eq_false_iff_not] at hspace
      simp [readLines, hspace.1.1, hspace.2]
  have hbreak : isBreak '\n' = true := rfl
  unfold readGap
  simp [hmark, hlines, hbreak, breakValue, foldBreaks]

/-- words as `readPlainFrom` takes them -/
structure IsWord (w : List Char) : Prop where
  ne_nil : w ≠ []
  space : ∀ c ∈ w, isSpace c = false
  hash : w.head? ≠ some '#'
  colon : ∀ a b, w = a ++ ':' :: b → b ≠ []

theorem IsWord.starts {w r : List Char} (h : IsWord w) :
    ¬ ((w ++ r).head? = some '#' ∨ endsChunk false (w ++ r) = true) := by
  obtain ⟨c, w, rfl⟩ := List.exists_cons_of_ne_nil h.ne_nil
  have hchunk :=
    endsChunk_cons (r := r) (h.space c List.mem_cons_self) (fun d hd => h.space d (List.mem_cons_of_mem c hd))
    fun hc => h.colon [] w (by rw [hc]; rfl)
  rintro (hhash | hends)
  · exact h.hash hhash
  · rw [List.cons_append, hchunk] at hends
    cases hends

theorem readPlainFrom_last {w r more : List Char} {indent : Nat} (hw : IsWord w) (hr : endsChunk false r = true)
    (hindent : 0 < indent) (broken : Bool) (hgap : readGap r = ⟨[' '], more, some 0⟩) :
    readPlainFrom false indent broken (w ++ r) = ⟨w, more, true⟩ := by
  unfold readPlainFrom
  rw [if_neg hw.starts, readChunk_word hw.space hw.colon hr]
  simp [hgap, hindent]

theorem readPlainFrom_more {w r gap rest text more : List Char} {column : Option Nat} {indent : Nat}
    {ends : Bool} (hw : IsWord w)
    (hr : endsChunk false r = true) (broken : Bool) (hgap : readGap r = ⟨gap, rest, column⟩) (hne : gap ≠ [])
    (hhash : rest.head? ≠ some '#') (hcolumn : column.any (· < indent) = false)
    (hrest : readPlainFrom false indent column.isSome rest = ⟨text, more, ends⟩) (htext : text ≠ []) :
    readPlainFrom false indent broken (w ++ r) = ⟨w ++ gap ++ text, more, ends⟩ := by
  have hlt : rest.length < (w ++ r).length := by
    have hle : rest.length ≤ r.length := by
      have := length_readGap r
      rwa [hgap] at this
    have hpos := List.length_pos_of_ne_nil hw.ne_nil
    rw [List.length_append]
    omega
  have hgoes : ¬ (gap = [] ∨ rest.head? = some '#' ∨ column.any (· < indent) = true) := by
    simp only [hne, hhash, hcolumn, Bool.false_eq_true, or_self, not_false_eq_true]
  rw [readPlainFrom, if_neg hw.starts, readChunk_word hw.space hw.colon hr]
  simp only [hgap, Bool.not_false, Bool.true_and]
  rw [if_neg hgoes, if_pos hlt, hrest]
  simp only [htext, if_false]

/-- a word before a colon and a blank, as keys of a mapping are -/
theorem readPlainFrom_key {w r : List Char} {indent : Nat} (hw : IsWord w) (broken : Bool) :
    readPlainFrom false indent broken (w ++ ':' :: ' ' :: r) = ⟨w, ':' :: ' ' :: r, false⟩ := by
  have hgap : readGap (':' :: ' ' :: r) = ⟨[], ':' :: ' ' :: r, none⟩ := readGap_blanks (List.forall_mem_nil _) rfl _
  unfold readPlainFrom
  rw [if_neg hw.starts, readChunk_word hw.space hw.colon rfl]
  simp [hgap]

/-! ## Reading back -/

/-- the first word of a plain text -/
theorem IsPlain.isWord {w r : List Char} (h : IsPlain (w ++ r)) (hne : w ≠ []) (hword : ∀ c ∈ w, c ≠ ' ')
    (hr : atWordEnd r = true) : IsWord w := by
  refine ⟨hne, fun c hc => h.isSpace_of_ne (List.mem_append_left r hc) (hword c hc), ?_, ?_⟩
  · have := h.head_hash
    rwa [List.head?_append_of_ne_nil _ hne] at this
  · rintro a b rfl rfl
    have := h.colon a r (by simp)
    rw [hr] at this
    cases this

/-- **A plain scalar keeps the text.** It ends with the line, if the next one is not indented. -/
theorem readPlainFrom_writePlain {cs more : List Char} {indent : Nat} (h : IsPlain cs)
    (hspace : more.head?.any isSpace = false) (hmark : atDocumentMark more = false)
    (hindent : 0 < indent ∧ indent ≤ foldIndent) (column : Nat) (inner broken : Bool) :
    readPlainFrom false indent broken (writePlain column inner cs ++ '\n' :: more) = ⟨cs, more, true⟩ := by
  induction hn : cs.length using Nat.strong_induction_on generalizing cs column inner broken with
  | h n ih =>
    obtain ⟨w, hne, hword, rfl | ⟨blanks, c, r, hblanks, hblank, hc, rfl, hrest⟩⟩ := h.exists_word
    · have hw : IsWord cs := IsPlain.isWord (r := []) (by rwa [List.append_nil]) hne hword rfl
      obtain ⟨after, hwrite⟩ := writePlain_word hword hne column inner []
      rw [List.append_nil, writePlain, List.append_nil] at hwrite
      rw [hwrite]
      exact readPlainFrom_last hw rfl hindent.1 broken (readGap_end hspace hmark)
    · have hw : IsWord w := by
        refine h.isWord hne hword ?_
        obtain ⟨b, bs, rfl⟩ := List.exists_cons_of_ne_nil hblanks
        rw [hblank b List.mem_cons_self]
        rfl
      have hlen : (c :: r).length < n := by
        rw [← hn, List.length_append, List.length_append]
        have := List.length_pos_of_ne_nil hne
        omega
      have hcspace : isSpace c = false := hrest.isSpace_of_ne List.mem_cons_self hc
      have hhash : ∀ y : List Char, (c :: y).head? ≠ some '#' := fun _ => hrest.head_hash
      obtain ⟨after, hwrite⟩ := writePlain_word hword hne column inner (blanks ++ c :: r)
      rw [hwrite, List.append_assoc]
      rcases writePlain_blanks hblanks hblank after c r with ⟨next, hnext⟩ | ⟨rfl, hnext⟩
      · obtain ⟨x, hx⟩ := exists_writePlain hc next false r
        have hread := ih _ hlen hrest next false false rfl
        rw [hx, List.cons_append] at hread
        have hends : endsChunk false (blanks ++ c :: (x ++ '\n' :: more)) = true := by
          obtain ⟨b, bs, rfl⟩ := List.exists_cons_of_ne_nil hblanks
          rw [hblank b List.mem_cons_self]
          rfl
        rw [hnext, hx, List.append_assoc, List.cons_append,
          readPlainFrom_more hw hends broken (readGap_blanks hblank hcspace _) hblanks (hhash _) rfl hread (by simp),
            List.append_assoc]
      · obtain ⟨x, hx⟩ := exists_writePlain hc foldIndent true r
        have hread := ih _ hlen hrest foldIndent true true rfl
        rw [hx, List.cons_append] at hread
        have hcolumn : (some foldIndent).any (· < indent) = false := by
          simpa using hindent.2
        rw [hnext, hx, List.append_assoc, List.cons_append,
          readPlainFrom_more hw rfl broken (readGap_fold hcspace _) (by simp) (hhash _) hcolumn hread (by simp),
            List.append_assoc]

end SchemaTypings.Yaml
