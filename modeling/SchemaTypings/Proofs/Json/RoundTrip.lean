/-
Documents are read back from the text that writes them.

`Reads` says which documents, and how many levels it takes: they have no real numbers and no halves of pairs, integers of
64 bits, and no key twice. There is one lemma for each kind of document, about its text with more text after it, and
`Reads.isReadAt` puts them together by induction on the document. What follows a number must not go on with it
(`EndsNumber`); in a document it is a comma, a bracket, a brace or the end of a line.
-/
import SchemaTypings.Proofs.Entries
import SchemaTypings.Proofs.Json.Strings
import SchemaTypings.Proofs.Text.Span

namespace SchemaTypings.Json

open SchemaTypings.Text

/-- documents that are read back if so many arrays and objects may be open -/
inductive Reads : Nat → Json → Prop where
  | null {levels : Nat} : Reads levels .null
  | bool {levels : Nat} (b : Bool) : Reads levels (.bool b)
  | int {levels : Nat} {n : Int} (hn : n.natAbs < wordLimit) : Reads levels (.int n)
  | string {levels : Nat} (s : String) : Reads levels (.string s)
  | array {levels : Nat} {js : List Json} (hjs : ∀ j ∈ js, Reads levels j) : Reads (levels + 1) (.array js)
  | object {levels : Nat} {es : List (String × Json)} (hkeys : (es.map Prod.fst).Nodup)
      (hes : ∀ e ∈ es, Reads levels e.2) : Reads (levels + 1) (.object es)

/-- whether a text does not go on with a number before it -/
def EndsNumber (rest : List Char) : Prop :=
  ∀ c, rest.head? = some c → isDigit c = false ∧ c ≠ '.' ∧ c ≠ 'e' ∧ c ≠ 'E'

theorem endsNumber_nil : EndsNumber [] := nofun

theorem endsNumber_cons {c : Char} (hc : isDigit c = false ∧ c ≠ '.' ∧ c ≠ 'e' ∧ c ≠ 'E') (rest : List Char) :
    EndsNumber (c :: rest) := by
  intro d hd
  obtain rfl := Option.some.inj hd
  exact hc

theorem endsNumber_newLine (step : Option Nat) (level : Nat) {rest : List Char} (hrest : EndsNumber rest) :
    EndsNumber (newLine step level ++ rest) := by
  cases step with
  | none => exact hrest
  | some n => exact endsNumber_cons (by decide) _

/-! ## Numbers -/

/-- digits are written for a number, and they have its value -/
theorem toString_digits (n : Nat) :
    (∀ d ∈ (toString n).toList, isDigit d = true) ∧ decimal (toString n).toList = n ∧ (toString n).toList ≠ [] := by
  have hdigits : (toString n).toList = Nat.toDigits 10 n := by
    rw [Nat.toString_eq_ofList_toDigits, String.toList_ofList]
  rw [hdigits]
  refine ⟨?_, ?_, Nat.toDigits_ne_nil⟩
  · intro d hd
    have hdigit := Nat.isDigit_of_mem_toDigits (by decide) (by decide) hd
    simpa [Char.isDigit, isDigit, Char.le_def] using hdigit
  · exact Nat.ofDigitChars_toDigits (by decide) (by decide)

theorem readMagnitude_digits (negative : Bool) {ds rest : List Char} (hds : ∀ d ∈ ds, isDigit d = true)
    (hsmall : decimal ds < wordLimit) (hrest : EndsNumber rest) :
    readMagnitude negative (ds ++ rest) = some (.int (if negative then -decimal ds else decimal ds), rest) := by
  have hstop : rest.head?.any isDigit = false := by
    cases hhead : rest.head? with
    | none => rfl
    | some c => exact (hrest c hhead).1
  obtain ⟨htake, hdrop⟩ := takeWhile_append_stop hds hstop
  have hplain : readMagnitude.plain ds [] false (if negative then ['-'] else []) rest =
      some (.int (if negative then -decimal ds else decimal ds), rest) := by
    rw [readMagnitude.plain, if_neg Bool.false_ne_true, if_neg fun h => absurd h.2 (Nat.not_le.2 hsmall)]
    cases negative <;> rfl
  rw [readMagnitude.eq_1, htake, hdrop]
  split
  next fraction after dotted heq =>
    split at heq
    · exact absurd rfl (hrest '.' rfl).2.1
    · obtain ⟨rfl, rfl, rfl⟩ : fraction = [] ∧ after = rest ∧ dotted = false := by
        cases heq
        exact ⟨rfl, rfl, rfl⟩
      cases after with
      | nil => exact hplain
      | cons c cs =>
        obtain ⟨_, _, hsmallE, hlargeE⟩ := hrest c rfl
        exact (if_neg (not_or.2 ⟨hsmallE, hlargeE⟩)).trans hplain

theorem ne_of_isDigit {c d : Char} (hc : isDigit c = true) (hd : isDigit d = false) : c ≠ d := by
  rintro rfl
  rw [hc] at hd
  cases hd

theorem readAtom_digit {c : Char} (hc : isDigit c = true) (cs : List Char) :
    readAtom (c :: cs) = readMagnitude false (c :: cs) := by
  have hne : ∀ d, isDigit d = false → c ≠ d := fun d hd => ne_of_isDigit hc hd
  rw [readAtom.eq_8 _ _ (hne _ rfl) (hne _ rfl) (hne _ rfl) (hne _ rfl) (hne _ rfl) (fun _ h _ => hne _ rfl h)
    (hne _ rfl), if_pos hc]

theorem readAtom_minus {c : Char} (hc : isDigit c = true) (cs : List Char) :
    readAtom ('-' :: c :: cs) = readMagnitude true (c :: cs) :=
  readAtom.eq_7 _ fun _ h => ne_of_isDigit hc rfl (List.cons.inj h).1

/-- first characters of numbers and words -/
def startsAtom (c : Char) : Bool := isDigit c || c = '-' || c = 'n' || c = 't' || c = 'f'

theorem startsAtom_facts {c : Char} (h : startsAtom c = true) :
    isBlank c = false ∧ c ≠ '"' ∧ c ≠ '[' ∧ c ≠ '{' ∧ c ≠ ']' := by
  have hne : ∀ d, startsAtom d = false → c ≠ d := by
    rintro d hd rfl
    rw [h] at hd
    cases hd
  refine ⟨?_, hne _ rfl, hne _ rfl, hne _ rfl, hne _ rfl⟩
  simp [isBlank, hne ' ' rfl, hne '\t' rfl, hne '\n' rfl, hne '\r' rfl]

/-- what an integer is written as, and what is read of it -/
theorem exists_cons_toString (n : Int) :
    ∃ c cs, (toString n).toList = c :: cs ∧ startsAtom c = true ∧
      (n.natAbs < wordLimit → ∀ rest, EndsNumber rest → readAtom (c :: cs ++ rest) = some (.int n, rest)) := by
  obtain ⟨hds, hvalue, hne⟩ := toString_digits n.natAbs
  obtain ⟨d, ds, hcons⟩ := List.exists_cons_of_ne_nil hne
  have hd : isDigit d = true := hds d (by rw [hcons]; exact List.mem_cons_self)
  have hmagnitude : n.natAbs < wordLimit → ∀ rest, EndsNumber rest → ∀ negative,
      readMagnitude negative (d :: ds ++ rest) = some (.int (if negative then -n.natAbs else n.natAbs), rest) := by
    intro hn rest hrest negative
    have hread := readMagnitude_digits negative hds (by rwa [hvalue]) hrest
    rwa [hvalue, hcons] at hread
  cases n with
  | ofNat m =>
    refine ⟨d, ds, hcons, by simp [startsAtom, hd], fun hn rest hrest => ?_⟩
    exact (readAtom_digit hd _).trans (hmagnitude hn rest hrest false)
  | negSucc m =>
    have htext : (toString (Int.negSucc m)).toList = '-' :: d :: ds := by
      rw [← hcons]
      exact String.toList_append
    refine ⟨'-', d :: ds, htext, rfl, fun hn rest hrest => ?_⟩
    exact (readAtom_minus hd _).trans (hmagnitude hn rest hrest true)

/-! ## Values -/

/-- a number or a word with blanks before it is read as a value -/
theorem readValue_atom (levels : Nat) {bs : List Char} (hbs : ∀ b ∈ bs, isBlank b = true) {c : Char}
    (hc : startsAtom c = true) (cs : List Char) : readValue levels (bs ++ c :: cs) = readAtom (c :: cs) := by
  obtain ⟨hblank, hquote, hbracket, hbrace, _⟩ := startsAtom_facts hc
  unfold readValue
  rw [skipBlanks_append_cons hbs hblank]
  split
  · next heq => exact absurd (List.cons.inj heq).1 hquote
  · next heq => exact absurd (List.cons.inj heq).1 hbracket
  · next heq => exact absurd (List.cons.inj heq).1 hbrace
  · rfl

/-- whether a document is read back at a level, with blanks before its text and more text after it -/
def IsReadAt (levels : Nat) (step : Option Nat) (level : Nat) (j : Json) : Prop :=
  ∀ {bs rest : List Char}, (∀ b ∈ bs, isBlank b = true) → EndsNumber rest →
    readValue levels (bs ++ (writeAt step level j ++ rest)) = some (j, rest)

/-- the items of an array are read one by one up to the bracket -/
theorem readItems_written {levels : Nat} {step : Option Nat} {level : Nat} (outer : Nat) {j : Json} {js : List Json}
    (hread : ∀ k ∈ j :: js, IsReadAt levels step level k) {bs : List Char} (hbs : ∀ b ∈ bs, isBlank b = true) (rest : List Char) :
    readItems (readValue levels) (bs ++ (writeAt step level j ++ (writeItems step level js ++
      (newLine step outer ++ ']' :: rest)))) = some (j :: js, rest) := by
  induction js generalizing j bs with
  | nil =>
    have hend : EndsNumber (newLine step outer ++ ']' :: rest) :=
      endsNumber_newLine step outer (endsNumber_cons (by decide) _)
    have hskip := skipBlanks_append_cons (c := ']') (isBlank_of_mem_newLine step outer) rfl rest
    rw [readItems, writeItems, List.nil_append, hread j List.mem_cons_self hbs hend]
    simp only [hskip]
  | cons k js ih =>
    have hnext : writeItems step level (k :: js) ++ (newLine step outer ++ ']' :: rest) =
        ',' :: (newLine step level ++ (writeAt step level k ++ (writeItems step level js ++
          (newLine step outer ++ ']' :: rest)))) := by
      simp [writeItems]
    have hrest := ih (fun k hk => hread k (List.mem_cons_of_mem j hk)) (isBlank_of_mem_newLine step level)
    have hend : EndsNumber (',' :: (newLine step level ++ (writeAt step level k ++ (writeItems step level js ++
        (newLine step outer ++ ']' :: rest))))) := endsNumber_cons (by decide) _
    rw [readItems, hnext, hread j List.mem_cons_self hbs hend]
    simp only [skipBlanks_cons (show isBlank ',' = false from rfl), List.length_append, List.length_cons]
    rw [if_pos (by omega), hrest]
    rfl

def readEntry (e : String × Json) : Option String × Json := (some e.1, e.2)

/-- an entry is read up to what follows it, with blanks before its key -/
theorem readEntries_entry {value : List Char → Option (Json × List Char)} {bs : List Char}
    (hbs : ∀ b ∈ bs, isBlank b = true) (e : String × Json) {text rest : List Char}
    (hvalue : value text = some (e.2, rest)) :
    readEntries value (bs ++ (quote e.1.toList ++ ':' :: text)) =
      match skipBlanks rest with
      | '}' :: r => some ([readEntry e], r)
      | ',' :: r =>
        if r.length < (bs ++ (quote e.1.toList ++ ':' :: text)).length then
          (readEntries value r).map fun (es, r) => (readEntry e :: es, r)
        else none
      | _ => none := by
  have hskip : skipBlanks (bs ++ (quote e.1.toList ++ ':' :: text)) =
      '"' :: (e.1.toList.flatMap escape ++ '"' :: ':' :: text) := by
    have hquote : quote e.1.toList ++ ':' :: text = '"' :: (e.1.toList.flatMap escape ++ '"' :: ':' :: text) := by
      simp [quote]
    rw [hquote, skipBlanks_append_cons hbs rfl]
  have hcolon : skipBlanks (':' :: text) = ':' :: text := skipBlanks_cons rfl _
  rw [readEntries]
  simp only [hskip, readPieces_quoted, hcolon, hvalue, textOf?_written]
  rfl

/-- the entries of an object are read one by one up to the brace -/
theorem readEntries_written {levels : Nat} {step : Option Nat} {level : Nat} (outer : Nat) {e : String × Json}
    {es : List (String × Json)}
    (hread : ∀ f ∈ e :: es, IsReadAt levels step level f.2) {bs : List Char} (hbs : ∀ b ∈ bs, isBlank b = true) (rest : List Char) :
    readEntries (readValue levels) (bs ++ (quote e.1.toList ++ (keyEnd step ++ (writeAt step level e.2 ++
      (writeEntries step level es ++ (newLine step outer ++ '}' :: rest)))))) =
      some ((e :: es).map readEntry, rest) := by
  obtain ⟨cs, hcs, hkey⟩ : ∃ cs, (∀ c ∈ cs, isBlank c = true) ∧ keyEnd step = ':' :: cs := by
    cases step with
    | none => exact ⟨[], by simp, rfl⟩
    | some n => exact ⟨[' '], List.forall_mem_singleton.2 rfl, rfl⟩
  rw [hkey, List.cons_append]
  induction es generalizing e bs with
  | nil =>
    have hend : EndsNumber (newLine step outer ++ '}' :: rest) :=
      endsNumber_newLine step outer (endsNumber_cons (by decide) _)
    have hskip := skipBlanks_append_cons (c := '}') (isBlank_of_mem_newLine step outer) rfl rest
    rw [writeEntries, List.nil_append, readEntries_entry hbs e (hread e List.mem_cons_self hcs hend), hskip]
    rfl
  | cons f es ih =>
    have hnext : writeEntries step level (f :: es) ++ (newLine step outer ++ '}' :: rest) =
        ',' :: (newLine step level ++ (quote f.1.toList ++ ':' :: (cs ++ (writeAt step level f.2 ++
          (writeEntries step level es ++ (newLine step outer ++ '}' :: rest)))))) := by
      simp [writeEntries, hkey]
    have hrest := ih (fun g hg => hread g (List.mem_cons_of_mem e hg)) (isBlank_of_mem_newLine step level)
    have hend : EndsNumber (',' :: (newLine step level ++ (quote f.1.toList ++ ':' :: (cs ++ (writeAt step level f.2 ++
        (writeEntries step level es ++ (newLine step outer ++ '}' :: rest))))))) := endsNumber_cons (by decide) _
    rw [hnext, readEntries_entry hbs e (hread e List.mem_cons_self hcs hend), skipBlanks_cons rfl]
    simp only [List.length_append, List.length_cons]
    rw [if_pos (by omega), hrest]
    rfl

theorem mapM_readEntry {f : Option String × Json → Option (String × Json)} (hf : ∀ e, f (readEntry e) = some e)
    (es : List (String × Json)) : (es.map readEntry).mapM f = some es := by
  induction es with
  | nil => rfl
  | cons e es ih =>
    rw [List.map_cons, List.mapM_cons, hf, ih]
    rfl

/-- entries whose keys differ make an object as they are -/
theorem ofEntries_readEntry {es : Entries Json} (hkeys : es.keys.Nodup) : ofEntries (es.map readEntry) = .object es := by
  rw [ofEntries, mapM_readEntry fun _ => rfl]
  exact congrArg Json.object (Entries.ofList_of_nodup hkeys)

/-! ## Documents -/

/-- what text starts a document: its first character is no blank and closes nothing -/
theorem Reads.exists_cons {levels : Nat} {j : Json} (h : Reads levels j) (step : Option Nat) (level : Nat) :
    ∃ c cs, writeAt step level j = c :: cs ∧ isBlank c = false ∧ c ≠ ']' := by
  cases h with
  | null => exact ⟨_, _, rfl, by decide, by decide⟩
  | bool b => cases b <;> exact ⟨_, _, rfl, by decide, by decide⟩
  | @int _ n _ =>
    obtain ⟨c, cs, htext, hc, _⟩ := exists_cons_toString n
    obtain ⟨hblank, _, _, _, hbracket⟩ := startsAtom_facts hc
    exact ⟨c, cs, by rw [writeAt, htext], hblank, hbracket⟩
  | string s => exact ⟨_, _, rfl, by decide, by decide⟩
  | @array _ js _ => cases js <;> exact ⟨_, _, rfl, by decide, by decide⟩
  | @object _ es _ _ => cases es <;> exact ⟨_, _, rfl, by decide, by decide⟩

section Opened

variable {bs text cs rest : List Char} (hbs : ∀ b ∈ bs, isBlank b = true) (levels : Nat)
include hbs

theorem readValue_emptyArray (htext : skipBlanks text = ']' :: rest) :
    readValue (levels + 1) (bs ++ '[' :: text) = some (.array [], rest) := by
  have hskip := skipBlanks_append_cons (c := '[') hbs rfl text
  unfold readValue
  simp only [hskip, htext]

theorem readValue_array {c : Char} (htext : skipBlanks text = c :: cs) (hc : c ≠ ']') :
    readValue (levels + 1) (bs ++ '[' :: text) =
      (readItems (readValue levels) (c :: cs)).map fun (js, r) => (.array js, r) := by
  have hskip := skipBlanks_append_cons (c := '[') hbs rfl text
  unfold readValue
  simp only [hskip, htext]
  split
  · next heq => exact absurd (List.cons.inj heq).1 hc
  · rfl

theorem readValue_emptyObject (htext : skipBlanks text = '}' :: rest) :
    readValue (levels + 1) (bs ++ '{' :: text) = some (.object [], rest) := by
  have hskip := skipBlanks_append_cons (c := '{') hbs rfl text
  unfold readValue
  simp only [hskip, htext]

theorem readValue_object (htext : skipBlanks text = '"' :: cs) :
    readValue (levels + 1) (bs ++ '{' :: text) =
      (readEntries (readValue levels) ('"' :: cs)).map fun (es, r) => (ofEntries es, r) := by
  have hskip := skipBlanks_append_cons (c := '{') hbs rfl text
  unfold readValue
  simp only [hskip, htext]
  rfl

end Opened

/-- a document is read up to what follows it -/
theorem Reads.isReadAt {levels : Nat} {j : Json} (h : Reads levels j) (step : Option Nat) (level : Nat) :
    IsReadAt levels step level j := by
  intro bs rest hbs hrest
  have hnone : ∀ b ∈ ([] : List Char), isBlank b = true := List.forall_mem_nil _
  have hline := isBlank_of_mem_newLine step
  induction h generalizing level bs rest with
  | null => exact readValue_atom _ hbs rfl _
  | bool b => cases b <;> exact readValue_atom _ hbs rfl _
  | @int levels n hn =>
    obtain ⟨c, cs, htext, hc, hread⟩ := exists_cons_toString n
    rw [writeAt, htext, List.cons_append, readValue_atom _ hbs hc]
    exact hread hn rest hrest
  | string s =>
    rw [writeAt]
    exact readValue_quote _ hbs s rest
  | @array levels js hjs ih =>
    cases js with
    | nil => exact readValue_emptyArray hbs levels (skipBlanks_cons rfl rest)
    | cons j js =>
      have hitems := readItems_written level (fun k hk => ih k hk (level + 1)) hnone rest
      obtain ⟨c, cs, hc, hblank, hbracket⟩ := (hjs j List.mem_cons_self).exists_cons step (level + 1)
      rw [hc, List.nil_append, List.cons_append] at hitems
      have htext : writeAt step level (.array (j :: js)) ++ rest =
          '[' :: (newLine step (level + 1) ++ (c :: (cs ++ (writeItems step (level + 1) js ++
            (newLine step level ++ ']' :: rest))))) := by
        simp [writeAt, hc]
      rw [htext, readValue_array hbs levels (skipBlanks_append_cons (hline _) hblank _) hbracket,
        hitems]
      rfl
  | @object levels es hkeys hes ih =>
    cases es with
    | nil => exact readValue_emptyObject hbs levels (skipBlanks_cons rfl rest)
    | cons e es =>
      have hentries := readEntries_written level (fun f hf => ih f hf (level + 1)) hnone rest
      obtain ⟨cs, hc⟩ : ∃ cs, quote e.1.toList = '"' :: cs := ⟨_, rfl⟩
      rw [hc, List.nil_append, List.cons_append] at hentries
      have htext : writeAt step level (.object (e :: es)) ++ rest =
          '{' :: (newLine step (level + 1) ++ ('"' :: (cs ++ (keyEnd step ++ (writeAt step (level + 1) e.2 ++
            (writeEntries step (level + 1) es ++ (newLine step level ++ '}' :: rest))))))) := by
        simp [writeAt, hc]
      rw [htext, readValue_object hbs levels (skipBlanks_append_cons (hline _) rfl _), hentries]
      exact congrArg (fun j => some (j, rest)) (ofEntries_readEntry hkeys)

/-- **Documents are read back** from the text that writes them, however it is indented. -/
theorem read?_write {j : Json} (h : Reads levelLimit j) (step : Option Nat) : read? (write step j) = some j := by
  have hread := h.isReadAt step 0 (List.forall_mem_nil _) endsNumber_nil
  rw [List.nil_append, List.append_nil] at hread
  rw [read?, write, hread]
  rfl

end SchemaTypings.Json
