/-
A text and the same text with LF for every line end are parsed alike.

Their tokens are alike (`lex_unify`), and no rule looks into a broken token: it is refused where it would become the
current one. So a rule takes both lists in step (`Rule.agree`, one case for each operation on tokens), and what fails on
both does so at the same number of tokens from the end, hence at the same line and column (`parse_unify`).
-/
import SchemaTypings.Proofs.Sdl.Rule
import SchemaTypings.Proofs.Sdl.UnifiedTokens
import SchemaTypings.Proofs.Sdl.Yields

namespace SchemaTypings.Sdl

open SchemaTypings.Schema SchemaTypings.Text SchemaTypings.Text.Line

/-- causes that are the same, or that are defects in the relation -/
def Cause.AlikeBy (R : Defect → Defect → Prop) (c c' : Cause) : Prop :=
  c = c' ∨ ∃ d e, c = .defect d ∧ c' = .defect e ∧ R d e

/-- faults at the same line and column whose causes are alike -/
def SourceFault.AlikeBy (R : Defect → Defect → Prop) (f g : SourceFault) : Prop :=
  f.position = g.position ∧ f.cause.AlikeBy R g.cause

namespace Parser

/-- tokens that are alike one by one, with the same current one -/
structure Similar (ts us : List Token) : Prop where
  tokens : List.Forall₂ Token.Alike ts us
  head : ts.head? = us.head?

/-- outcomes that are results in the relation, or failures at the same place for causes that are alike -/
inductive Agree {α : Type} (S : α → α → Prop) : Except Failure α → Except Failure α → Prop where
  | ok {a b : α} : S a b → Agree S (.ok a) (.ok b)
  | error {c c' : Cause} (left : Nat) : c.AlikeBy Defect.Alike c' → Agree S (.error ⟨c, left⟩) (.error ⟨c', left⟩)

/-- the same result, and tokens left that are similar -/
def SameResult {α : Type} (r s : α × List Token) : Prop := r.1 = s.1 ∧ Similar r.2 s.2

variable {α β : Type} {ts us : List Token}

theorem Similar.length_eq (h : Similar ts us) : ts.length = us.length := h.tokens.length_eq

theorem Agree.map {S : α → α → Prop} {S' : β → β → Prop} {x y : Except Failure α} {f g : α → β} (h : Agree S x y)
    (hfg : ∀ a b, S a b → S' (f a) (g b)) : Agree S' (x.map f) (y.map g) := by
  cases h with
  | ok hab => exact .ok (hfg _ _ hab)
  | error left hc => exact .error left hc

/-- a failure at the same place for the same cause -/
theorem Agree.same {S : α → α → Prop} (c : Cause) {m n : Nat} (h : m = n) :
    Agree S (.error ⟨c, m⟩) (.error ⟨c, n⟩) := by
  rw [h]
  exact .error n (.inl rfl)

/-- tokens that are alike are refused alike, or they have the same first one -/
theorem sound_agree (h : List.Forall₂ Token.Alike ts us) : Agree Similar (sound ts) (sound us) := by
  have hlength := h.length_eq
  cases h with
  | nil => exact .ok ⟨.nil, rfl⟩
  | @cons t u ts us htu hrest =>
    have halike : List.Forall₂ Token.Alike (t :: ts) (u :: us) := .cons htu hrest
    rcases htu with rfl | ⟨d, e, rfl, rfl, hde⟩
    · cases t with
      | broken d => exact .same _ hlength
      | _ => exact .ok ⟨halike, rfl⟩
    · rw [sound, sound, hlength]
      exact .error _ (.inr ⟨d, e, rfl, rfl, hde⟩)

theorem Similar.sound_tail (h : Similar ts us) : Agree Similar (sound ts.tail) (sound us.tail) := by
  refine sound_agree ?_
  cases h.tokens with
  | nil => exact .nil
  | cons _ hrest => exact hrest

/-- the current token is dropped, or what follows is refused -/
theorem Similar.advance (h : Similar ts us) (a : α) :
    Agree SameResult ((sound ts.tail).map (a, ·)) ((sound us.tail).map (a, ·)) :=
  h.sound_tail.map fun _ _ hrest => ⟨rfl, hrest⟩

theorem bind_agree {p : Parser α} {f : α → Parser β} (hp : Agree SameResult (p ts) (p us))
    (hf : ∀ a {ts us}, Similar ts us → Agree SameResult (f a ts) (f a us)) :
    Agree SameResult ((p >>= f) ts) ((p >>= f) us) := by
  simp only [bind, StateT.bind, Except.bind]
  generalize p ts = x at hp
  generalize p us = y at hp
  cases hp with
  | @ok r s hrs =>
    obtain ⟨hvalue, hrest⟩ := hrs
    show Agree SameResult (f r.1 r.2) (f s.1 s.2)
    rw [hvalue]
    exact hf s.1 hrest
  | error left hc => exact .error left hc

/-! ## Repetitions -/

section

variable {item : Parser α} (hitem : ∀ {ts us}, Similar ts us → Agree SameResult (item ts) (item us))

include hitem

/-- an item takes a token of both lists or of none; what comes after it starts with fewer tokens -/
theorem itemThen_agree {S : β → β → Prop} {next : α → List Token → Except Failure β} (h : Similar ts us)
    (hnext : ∀ a {rest rest'}, rest.length < ts.length → Similar rest rest' → Agree S (next a rest) (next a rest')) :
    Agree S (itemThen item next ts) (itemThen item next us) := by
  have hfirst := hitem h
  unfold itemThen
  generalize item ts = x at hfirst
  generalize item us = y at hfirst
  cases hfirst with
  | @ok r s hrs =>
    obtain ⟨hvalue, hrest⟩ := hrs
    simp only [Except.bind, hvalue, ← hrest.length_eq, ← h.length_eq, ← h.head]
    split_ifs with hlt
    · exact hnext s.1 hlt hrest
    · exact .same _ rfl
  | error left hc => exact .error left hc

theorem upTo_agree (close : Punct) {ts us : List Token} (h : Similar ts us) :
    Agree SameResult (upTo close item ts) (upTo close item us) := by
  rw [upTo_eq, upTo_eq, ← h.head]
  split_ifs
  · exact h.advance []
  · refine itemThen_agree hitem h fun a rest rest' hlt hrest => ?_
    exact (upTo_agree close hrest).map fun r s hrs => ⟨congrArg (a :: ·) hrs.1, hrs.2⟩
termination_by ts.length

theorem whileAt_agree (p : Punct) {ts us : List Token} (h : Similar ts us) :
    Agree SameResult (whileAt p item ts) (whileAt p item us) := by
  rw [whileAt_eq, whileAt_eq, ← h.head]
  split_ifs
  · refine itemThen_agree hitem h fun a rest rest' hlt hrest => ?_
    exact (whileAt_agree p hrest).map fun r s hrs => ⟨congrArg (a :: ·) hrs.1, hrs.2⟩
  · exact .ok ⟨rfl, h⟩
termination_by ts.length

theorem upToEnd_agree {ts us : List Token} (h : Similar ts us) : Agree Eq (upToEnd item ts) (upToEnd item us) := by
  have hnil : ts = [] ↔ us = [] := by rw [← List.length_eq_zero_iff, h.length_eq, List.length_eq_zero_iff]
  rw [upToEnd_eq, upToEnd_eq]
  by_cases hend : ts = []
  · rw [if_pos hend, if_pos (hnil.1 hend)]
    exact .ok rfl
  · rw [if_neg hend, if_neg (mt hnil.2 hend)]
    refine itemThen_agree hitem h fun a rest rest' hlt hrest => ?_
    exact (upToEnd_agree hrest).map fun as bs has => congrArg (a :: ·) has
termination_by ts.length

end

/-! ## Rules -/

/-- **A rule takes lists of tokens that are alike in step.** -/
theorem Rule.agree {p : Parser α} (hp : Rule p) (h : Similar ts us) : Agree SameResult (p ts) (p us) := by
  induction hp generalizing ts us with
  | pure a => exact .ok ⟨rfl, h⟩
  | bind _ _ ihp ihf => exact bind_agree (ihp h) fun a _ _ hrest => ihf a hrest
  | current => exact .ok ⟨h.head, h⟩
  | following => exact h.sound_tail.map fun rest rest' hrest => ⟨hrest.head, h⟩
  | advance => exact h.advance ()
  | refuse c => exact .same c h.length_eq
  | refuseBack back c => exact .same c (congrArg (· + back) h.length_eq)
  | unexpected =>
    rw [Parser.unexpected, Parser.unexpected, h.head]
    exact .same _ h.length_eq
  | unexpectedNext t => exact .same _ (congrArg (· - 1) h.length_eq)
  | upTo close _ ih => exact upTo_agree ih close h
  | whileAt p _ ih => exact whileAt_agree ih p h

end Parser

/-! ## Documents -/

theorem document_agree {ts us : List Token} (h : List.Forall₂ Token.Alike ts us) :
    Parser.Agree Eq (document ts) (document us) := by
  have hsound := Parser.sound_agree h
  unfold document
  generalize Parser.sound ts = x at hsound
  generalize Parser.sound us = y at hsound
  cases hsound with
  | @ok ts us hsimilar =>
    cases hsimilar.tokens with
    | nil => exact .same _ rfl
    | cons => exact Parser.upToEnd_agree Parser.definition_rule.agree hsimilar
  | error left hc => exact .error left hc

/-- the place of a failure is one that the unified text has too -/
theorem placeOf_alike {text : List Char} {ls ms : List Lexeme} (h : List.Forall₂ (LexemesAlike text) ls ms)
    (left : Nat) :
    ∃ rest, Reaches text rest ∧ placeOf ls left = rest.length ∧ placeOf ms left = (unify rest).length := by
  have hdrop := List.forall₂_drop (ls.length - left) h
  unfold placeOf
  rw [← h.length_eq]
  generalize ls.drop (ls.length - left) = ls' at hdrop
  generalize ms.drop (ls.length - left) = ms' at hdrop
  cases hdrop with
  | nil => exact ⟨[], reaches_nil text, rfl, rfl⟩
  | cons hlm _ => exact hlm.places

theorem locate_unify (text : List Char) (left : Nat) :
    Line.locate (unify text) ((unify text).length - placeOf (lex (unify text)) left) =
      Line.locate text (text.length - placeOf (lex text) left) := by
  obtain ⟨rest, hreaches, hplace, hplace'⟩ := placeOf_alike (lex_unify text) left
  rw [hplace, hplace']
  exact hreaches.locateFrom_unify 1 1

/-- **Line ends do not matter to the parser**: a text and the unified text have the same definitions, or faults at the
same line and column for causes that are alike. -/
theorem parse_unify (text : List Char) :
    (∃ ds, parse text = .ok ds ∧ parse (unify text) = .ok ds) ∨
      ∃ f g, parse text = .error f ∧ parse (unify text) = .error g ∧ f.AlikeBy Defect.Alike g := by
  have htokens : List.Forall₂ Token.Alike (tokens text) (tokens (unify text)) := by
    rw [tokens, tokens, List.forall₂_map_left_iff, List.forall₂_map_right_iff]
    exact (lex_unify text).imp fun l m h => h.tokens
  have hdocument := document_agree htokens
  unfold parse
  generalize document (tokens text) = x at hdocument
  generalize document (tokens (unify text)) = y at hdocument
  cases hdocument with
  | @ok ds _ hds =>
    subst hds
    exact .inl ⟨ds, rfl, rfl⟩
  | error left hc => exact .inr ⟨_, _, rfl, rfl, (locate_unify text left).symm, hc⟩

end SchemaTypings.Sdl
