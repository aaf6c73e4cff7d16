/-
Definitions as tokens, and how the rules of the grammar read tokens.

`definitionTokens` writes a definition as a list of tokens. A rule takes the tokens of its own part and leaves what
follows, as long as that cannot go on with the part: a stop (`isStop`), or the start of a part that may come next
(`Follows`). A repetition is read item by item, if what follows an item is always what the item needs (`IsItem`).
-/
import SchemaTypings.Proofs.Schema.WellFormed
import SchemaTypings.Proofs.Sdl.Yields

namespace SchemaTypings.Schema

variable {α : Type}

def Member.types : Member α → List (TypeRef α)
  | .field _ t args => t :: args.map Argument.type
  | .input _ t => [t]

def Definition.types : Definition α → List (TypeRef α)
  | .record _ _ ms => ms.flatMap Member.types
  | _ => []

end SchemaTypings.Schema

namespace SchemaTypings.Sdl

open SchemaTypings.Schema SchemaTypings.Sdl.Parser

/-! ## Definitions as tokens -/

def typeTokens : TypeRef String → List Token
  | .leaf n => [.name n]
  | .list t => .punct .bracketOpen :: typeTokens t ++ [.punct .bracketClose]
  | .nonNull t => typeTokens t ++ [.punct .bang]

/-- items between punctuators, nothing at all if there are none -/
def optionalTokens (opening close : Punct) (items : List (List Token)) : List Token :=
  if items = [] then [] else .punct opening :: items.flatten ++ [.punct close]

def argumentTokens (a : Argument String) : List Token := .name a.name :: .punct .colon :: typeTokens a.type

def memberTokens : Member String → List Token
  | .field n t args =>
    .name n :: optionalTokens .parenOpen .parenClose (args.map argumentTokens) ++ .punct .colon :: typeTokens t
  | .input n t => .name n :: .punct .colon :: typeTokens t

/-- a definition as tokens: braces only if there is something in them; one without declaration has none -/
def definitionTokens : Definition String → List Token
  | .record k n ms =>
    .name (recordKeyword k) :: .name n :: optionalTokens .braceOpen .braceClose (ms.map memberTokens)
  | .enum n vs => .name "enum" :: .name n :: optionalTokens .braceOpen .braceClose (vs.map fun v => [.name v])
  | .other _ _ _ => []

/-! ## What follows a part -/

def isClosing (p : Punct) : Bool := p = .parenClose || p = .braceClose || p = .bracketClose

/-- whether no part of a definition goes on here: at a name, a description, a closing punctuator or the end -/
def isStop : List Token → Bool
  | [] => true
  | .name _ :: _ => true
  | .string _ :: _ => true
  | .block _ :: _ => true
  | .punct p :: _ => isClosing p
  | _ => false

/-- what follows a part: a stop, or one of the punctuators that the next parts start with -/
def Follows (ps : List Punct) (ts : List Token) : Prop := isStop ts = true ∨ ∃ p ∈ ps, ts.head? = some (.punct p)

theorem sound_of_isStop {ts : List Token} (h : isStop ts = true) : sound ts = .ok ts := by
  unfold isStop at h
  split at h
  · rfl
  · rfl
  · rfl
  · rfl
  · rfl
  · cases h

theorem Follows.sound {ps : List Punct} {ts : List Token} (h : Follows ps ts) : sound ts = .ok ts := by
  rcases h with h | ⟨p, _, hp⟩
  · exact sound_of_isStop h
  · cases ts with
    | nil => rfl
    | cons t ts =>
      obtain rfl := Option.some.inj hp
      rfl

theorem Follows.head?_ne {ps : List Punct} {ts : List Token} (h : Follows ps ts) {p : Punct} (hp : p ∉ ps)
    (hclosing : isClosing p = false) : ts.head? ≠ some (.punct p) := by
  intro hhead
  cases ts with
  | nil => cases hhead
  | cons t ts =>
    obtain rfl := Option.some.inj hhead
    rcases h with h | ⟨q, hq, hhead'⟩
    · rw [isStop, hclosing] at h
      cases h
    · obtain rfl := Token.punct.inj (Option.some.inj hhead')
      exact hp hq

theorem Follows.stop {ps : List Punct} {ts : List Token} (h : isStop ts = true) : Follows ps ts := .inl h

/-- a part that may be missing comes before what may follow it -/
theorem Follows.part {p : Punct} {ps : List Punct} {us ts : List Token} (hus : us = [] ∨ us.head? = some (.punct p))
    (h : Follows ps ts) : Follows (p :: ps) (us ++ ts) := by
  rcases hus with rfl | hhead
  · rcases h with h | ⟨q, hq, hhead⟩
    · exact .inl h
    · exact .inr ⟨q, List.mem_cons_of_mem p hq, hhead⟩
  · refine .inr ⟨p, List.mem_cons_self, ?_⟩
    rw [List.head?_append, hhead]
    rfl

namespace Parser

variable {α β : Type}

/-! ## Single steps -/

theorem run_bind {p : Parser α} {f : α → Parser β} {ts mid : List Token} {a : α} (h : p ts = .ok (a, mid)) :
    (p >>= f) ts = f a mid := by
  simp only [bind, StateT.bind, h, Except.bind]

/-- one step of a rule and then the others -/
theorem step {p : Parser α} {f : α → Parser β} {ts mid : List Token} {a : α} {r : Except Failure (β × List Token)}
    (h : p ts = .ok (a, mid)) (hf : f a mid = r) : (p >>= f) ts = r := (run_bind h).trans hf

@[simp]
theorem run_pure (a : α) (ts : List Token) : (pure a : Parser α) ts = .ok (a, ts) := rfl

@[simp]
theorem current_eq (ts : List Token) : current ts = .ok (ts.head?, ts) := rfl

@[simp]
theorem isAt_eq (p : Punct) (ts : List Token) : isAt p ts = .ok (decide (ts.head? = some (.punct p)), ts) := rfl

@[simp]
theorem advance_cons {t : Token} {ts : List Token} (h : sound ts = .ok ts) : advance (t :: ts) = .ok ((), ts) := by
  simp [advance, h]

@[simp]
theorem accept_cons {p : Punct} {ts : List Token} (h : sound ts = .ok ts) :
    accept p (.punct p :: ts) = .ok (true, ts) := by
  refine step (isAt_eq p _) ?_
  rw [List.head?_cons, decide_eq_true rfl, if_pos rfl]
  exact step (advance_cons h) (run_pure _ _)

theorem accept_of_ne {p : Punct} {ts : List Token} (h : ts.head? ≠ some (.punct p)) :
    accept p ts = .ok (false, ts) := by
  refine step (isAt_eq p _) ?_
  rw [decide_eq_false h, if_neg Bool.false_ne_true, run_pure]

@[simp]
theorem expect_cons {p : Punct} {ts : List Token} (h : sound ts = .ok ts) : expect p (.punct p :: ts) = .ok ((), ts) :=
  step (accept_cons h) (run_pure _ _)

@[simp]
theorem name_cons {n : String} {ts : List Token} (h : sound ts = .ok ts) : name (.name n :: ts) = .ok (n, ts) :=
  step (current_eq _) (step (advance_cons h) (run_pure _ _))

@[simp]
theorem acceptKeyword_cons {k : String} {ts : List Token} (h : sound ts = .ok ts) :
    acceptKeyword k (.name k :: ts) = .ok (true, ts) := by
  refine step (current_eq _) ?_
  rw [List.head?_cons, if_pos rfl]
  exact step (advance_cons h) (run_pure _ _)

theorem acceptKeyword_of_ne {k : String} {ts : List Token} (h : ts.head? ≠ some (.name k)) :
    acceptKeyword k ts = .ok (false, ts) := by
  refine step (current_eq _) ?_
  rw [if_neg h, run_pure]

@[simp]
theorem keyword_cons {k : String} {ts : List Token} (h : sound ts = .ok ts) :
    keyword k (.name k :: ts) = .ok ((), ts) :=
  step (acceptKeyword_cons h) (run_pure _ _)

theorem description_name (n : String) (ts : List Token) : description (.name n :: ts) = .ok ((), .name n :: ts) := rfl

theorem whileAt_of_ne {p : Punct} {item : Parser α} {ts : List Token} (h : ts.head? ≠ some (.punct p)) :
    whileAt p item ts = .ok ([], ts) := by
  rw [whileAt, if_neg h]

theorem constantDirectives_of_ne {ts : List Token} (h : ts.head? ≠ some (.punct .atSign)) :
    constantDirectives ts = .ok (false, ts) :=
  step (whileAt_of_ne h) (run_pure _ _)

theorem defaultValue_of_ne {ts : List Token} (h : ts.head? ≠ some (.punct .equal)) : defaultValue ts = .ok ((), ts) :=
  step (accept_of_ne h) (run_pure _ _)

/-! ## Repetitions -/

/-- an item of a repetition: its tokens are read wherever `Q` holds of what follows, and `Q` holds where they start -/
structure IsItem (item : Parser α) (first : Token → Prop) (Q : List Token → Prop) (a : α) (ts : List Token) : Prop where
  reads : ∀ us, Q us → item (ts ++ us) = .ok (a, us)
  starts : ∃ t us, ts = t :: us ∧ first t
  follows : ∀ us, Q (ts ++ us)

variable {item : Parser α} {Q : List Token → Prop} {opening close p : Punct} {rest : List Token} {as : List α}
  {tss : List (List Token)} {first : Token → Prop}

/-- what follows the items holds where they start -/
theorem follows_flatten (hrest : Q rest) (h : List.Forall₂ (IsItem item first Q) as tss) : Q (tss.flatten ++ rest) := by
  cases h with
  | nil => exact hrest
  | cons h _ =>
    rw [List.flatten_cons, List.append_assoc]
    exact h.follows _

theorem upTo_items (hrest : sound rest = .ok rest) (hclose : Q (.punct close :: rest))
    (h : List.Forall₂ (IsItem item (· ≠ .punct close) Q) as tss) :
    upTo close item (tss.flatten ++ .punct close :: rest) = .ok (as, rest) := by
  induction h with
  | nil =>
    rw [upTo, List.flatten_nil, List.nil_append, List.head?_cons, if_pos rfl, List.tail_cons, hrest]
    rfl
  | @cons a ts as tss h htss ih =>
    have hread := h.reads _ (follows_flatten hclose htss)
    obtain ⟨t, us, rfl, ht⟩ := h.starts
    rw [List.flatten_cons, List.append_assoc, upTo, if_neg (by simpa using ht), hread]
    simp [ih]

theorem whileAt_items (hrest : Q rest) (hend : rest.head? ≠ some (.punct p))
    (h : List.Forall₂ (IsItem item (· = .punct p) Q) as tss) :
    whileAt p item (tss.flatten ++ rest) = .ok (as, rest) := by
  induction h with
  | nil => exact whileAt_of_ne hend
  | @cons a ts as tss h htss ih =>
    have hread := h.reads _ (follows_flatten hrest htss)
    obtain ⟨t, us, rfl, rfl⟩ := h.starts
    rw [List.flatten_cons, List.append_assoc, whileAt, if_pos (by rfl), hread]
    simp [ih]

theorem between_items (hQ : ∀ us, Q us → sound us = .ok us) (hrest : sound rest = .ok rest)
    (hclose : Q (.punct close :: rest)) (h : List.Forall₂ (IsItem item (· ≠ .punct close) Q) as tss) :
    between opening close item (.punct opening :: (tss.flatten ++ .punct close :: rest)) = .ok (as, rest) :=
  step (expect_cons (hQ _ (follows_flatten hclose h))) (upTo_items hrest hclose h)

theorem optionalBetween_items (hQ : ∀ us, Q us → sound us = .ok us) (hrest : sound rest = .ok rest)
    (hopening : rest.head? ≠ some (.punct opening)) (hclose : Q (.punct close :: rest))
    (h : List.Forall₂ (IsItem item (· ≠ .punct close) Q) as tss) :
    optionalBetween opening close item (optionalTokens opening close tss ++ rest) = .ok (as, rest) := by
  refine step (isAt_eq _ _) ?_
  cases h with
  | nil =>
    rw [optionalTokens, if_pos rfl, List.nil_append, decide_eq_false hopening, if_neg Bool.false_ne_true, run_pure]
  | @cons a ts as tss h htss =>
    have hnext := follows_flatten hclose htss
    have htokens : optionalTokens opening close (ts :: tss) ++ rest =
        .punct opening :: (ts ++ (tss.flatten ++ .punct close :: rest)) := by
      simp [optionalTokens]
    rw [htokens, List.head?_cons, decide_eq_true rfl, if_pos rfl]
    refine step (expect_cons (hQ _ (h.follows _))) (step (h.reads _ hnext) ?_)
    exact step (upTo_items hrest hclose htss) (run_pure _ _)

theorem upToEnd_items (hend : Q []) (h : List.Forall₂ (IsItem item (fun _ => True) Q) as tss) :
    upToEnd item tss.flatten = .ok as := by
  induction h with
  | nil => rw [upToEnd, List.flatten_nil, if_pos rfl]
  | @cons a ts as tss h htss ih =>
    have hread := h.reads tss.flatten (by simpa using follows_flatten hend htss)
    obtain ⟨t, us, rfl, _⟩ := h.starts
    rw [List.flatten_cons, upToEnd, if_neg (by simp), hread]
    simp [ih]

theorem optionalTokens_starts (opening close : Punct) (tss : List (List Token)) :
    optionalTokens opening close tss = [] ∨ (optionalTokens opening close tss).head? = some (.punct opening) := by
  unfold optionalTokens
  split_ifs
  · exact .inl rfl
  · exact .inr rfl

/-! ## Types -/

theorem typeWith_name {item : Parser (TypeRef String)} {n : String} {rest : List Token} (hrest : sound rest = .ok rest)
    (hbang : rest.head? ≠ some (.punct .bang)) :
    typeWith item (.name n :: rest) = .ok (.leaf n, rest) ∧
      typeWith item (.name n :: .punct .bang :: rest) = .ok (.nonNull (.leaf n), rest) := by
  constructor
  · refine step (accept_of_ne (by simp)) (step (name_cons hrest) (step (run_pure _ _) ?_))
    exact step (accept_of_ne hbang) (run_pure _ _)
  · refine step (accept_of_ne (by simp)) (step (name_cons rfl) (step (run_pure _ _) ?_))
    exact step (accept_cons hrest) (run_pure _ _)

theorem typeWith_list {item : Parser (TypeRef String)} {t : TypeRef String} {us rest : List Token}
    (hus : ∀ rest, sound (us ++ rest) = .ok (us ++ rest))
    (hitem : ∀ rest, item (us ++ .punct .bracketClose :: rest) = .ok (t, .punct .bracketClose :: rest))
    (hrest : sound rest = .ok rest) (hbang : rest.head? ≠ some (.punct .bang)) :
    typeWith item (.punct .bracketOpen :: us ++ [.punct .bracketClose] ++ rest) = .ok (.list t, rest) ∧
      typeWith item (.punct .bracketOpen :: us ++ [.punct .bracketClose] ++ .punct .bang :: rest) =
        .ok (.nonNull (.list t), rest) := by
  simp only [List.cons_append, List.append_assoc, List.nil_append]
  constructor
  · refine step (accept_cons (hus _)) (step (hitem _) (step (expect_cons hrest) ?_))
    exact step (run_pure _ _) (step (accept_of_ne hbang) (run_pure _ _))
  · refine step (accept_cons (hus _)) (step (hitem _) (step (expect_cons rfl) ?_))
    exact step (run_pure _ _) (step (accept_cons hrest) (run_pure _ _))

theorem sound_typeTokens (t : TypeRef String) (rest : List Token) :
    sound (typeTokens t ++ rest) = .ok (typeTokens t ++ rest) := by
  induction t generalizing rest with
  | leaf n => rfl
  | list t _ => rfl
  | nonNull t ih => simpa [typeTokens] using ih (.punct .bang :: rest)

/-- a type is read back, and so is the mark behind it -/
theorem typeRef_tokens {N : String → Prop} {t : TypeRef String} (ht : t.WellFormed N) {levels : Nat}
    (hl : t.lists ≤ levels) {rest : List Token} (hrest : sound rest = .ok rest)
    (hbang : rest.head? ≠ some (.punct .bang)) :
    typeRef levels (typeTokens t ++ rest) = .ok (t, rest) ∧
      (t.isNonNull = false → typeRef levels (typeTokens t ++ .punct .bang :: rest) = .ok (.nonNull t, rest)) := by
  induction t generalizing levels rest with
  | leaf n =>
    have hname : ∀ item : Parser (TypeRef String), typeWith item (.name n :: rest) = .ok (.leaf n, rest) ∧
        typeWith item (.name n :: .punct .bang :: rest) = .ok (.nonNull (.leaf n), rest) :=
      fun _ => typeWith_name hrest hbang
    cases levels with
    | zero => exact ⟨(hname _).1, fun _ => (hname _).2⟩
    | succ levels => exact ⟨(hname _).1, fun _ => (hname _).2⟩
  | list t ih =>
    cases levels with
    | zero => simp [TypeRef.lists] at hl
    | succ levels =>
      have hitem : ∀ rest, typeRef levels (typeTokens t ++ .punct .bracketClose :: rest) =
          .ok (t, .punct .bracketClose :: rest) := by
        intro rest
        have hclose : sound (.punct .bracketClose :: rest) = .ok (.punct .bracketClose :: rest) := rfl
        exact (ih ht (Nat.le_of_succ_le_succ hl) hclose (by simp)).1
      have hlist := typeWith_list (sound_typeTokens t) hitem hrest hbang
      exact ⟨hlist.1, fun _ => hlist.2⟩
  | nonNull t ih =>
    refine ⟨?_, fun hn => Bool.noConfusion hn⟩
    simpa [typeTokens] using (ih ht.2 hl hrest hbang).2 ht.1

end Parser

end SchemaTypings.Sdl
