/-
What parsers make of tokens, rule by rule.

`Yields N p Q`: on tokens whose names are all in the class `N`, the parser `p` leaves a final piece of them, and what it
makes satisfies `Q`. Rules are put together by `Yields.bind`; a repetition is an induction on the tokens that are left,
which get fewer with every item. `wellFormed_of_document`: the definitions of a document are well formed over its own
names, whichever rule made them.
-/
import Mathlib.Tactic
import SchemaTypings.Proofs.Schema.WellFormed
import SchemaTypings.Sdl.Document

namespace SchemaTypings.Sdl.Parser

open SchemaTypings.Schema

variable {α β : Type} {N : String → Prop} {P : α → Prop} {Q : β → Prop}

/-- what a parser makes of tokens whose names are in `N`, and that it leaves a final piece of them -/
def Yields (N : String → Prop) (p : Parser α) (P : α → Prop) : Prop :=
  ∀ ts a rest, (∀ n, Token.name n ∈ ts → N n) → p ts = .ok (a, rest) → rest <:+ ts ∧ P a

/-! ## Putting rules together -/

@[simp]
theorem bind_eq_ok {p : Parser α} {f : α → Parser β} {ts rest : List Token} {b : β} :
    (p >>= f) ts = .ok (b, rest) ↔ ∃ a mid, p ts = .ok (a, mid) ∧ f a mid = .ok (b, rest) := by
  simp only [bind, StateT.bind, Except.bind]
  cases p ts with
  | error e => simp
  | ok r =>
    constructor
    · exact fun h => ⟨r.1, r.2, rfl, h⟩
    · rintro ⟨a, mid, h, hb⟩
      cases h
      exact hb

@[simp]
theorem pure_eq_ok {a b : α} {ts rest : List Token} :
    (Pure.pure a : Parser α) ts = .ok (b, rest) ↔ a = b ∧ ts = rest := by
  show (Except.ok (a, ts) : Except Failure (α × List Token)) = .ok (b, rest) ↔ _
  rw [Except.ok.injEq, Prod.mk.injEq]

theorem Yields.pure {a : α} (h : P a) : Yields N (pure a) P := by
  intro ts b rest _ hb
  obtain ⟨rfl, rfl⟩ := pure_eq_ok.1 hb
  exact ⟨List.suffix_refl _, h⟩

theorem Yields.bind {p : Parser α} {f : α → Parser β} (hp : Yields N p P) (hf : ∀ a, P a → Yields N (f a) Q) :
    Yields N (p >>= f) Q := by
  intro ts b rest hN h
  obtain ⟨a, mid, ha, hb⟩ := bind_eq_ok.1 h
  obtain ⟨hmid, hP⟩ := hp ts a mid hN ha
  obtain ⟨hrest, hQ⟩ := hf a hP mid b rest (fun n hn => hN n (hmid.subset hn)) hb
  exact ⟨hrest.trans hmid, hQ⟩

theorem Yields.mono {P' : α → Prop} {p : Parser α} (hp : Yields N p P) (h : ∀ a, P a → P' a) : Yields N p P' :=
  fun ts a rest hN ha => ⟨(hp ts a rest hN ha).1, h a (hp ts a rest hN ha).2⟩

theorem Yields.ite {c : Prop} [Decidable c] {p q : Parser α} (hp : c → Yields N p P) (hq : ¬c → Yields N q P) :
    Yields N (if c then p else q) P := by
  split_ifs with h
  · exact hp h
  · exact hq h

theorem Yields.map {p : Parser α} {f : α → β} (hp : Yields N p P) (h : ∀ a, P a → Q (f a)) : Yields N (f <$> p) Q := by
  rw [map_eq_pure_bind]
  exact hp.bind fun a ha => .pure (h a ha)

/-! ## Single tokens -/

theorem refuse_yields (c : Cause) : Yields N (refuse c) P := by
  intro ts a rest _ h
  simp [refuse] at h

theorem refuseBack_yields (back : Nat) (c : Cause) : Yields N (refuseBack back c) P := by
  intro ts a rest _ h
  simp [refuseBack] at h

theorem unexpected_yields : Yields N unexpected P := by
  intro ts a rest _ h
  simp [unexpected] at h

theorem unexpectedNext_yields (t : Option Token) {P : Definition String → Prop} : Yields N (unexpectedNext t) P := by
  intro ts a rest _ h
  simp [unexpectedNext] at h

theorem sound_eq_ok {ts rest : List Token} (h : sound ts = .ok rest) : rest = ts := by
  unfold sound at h
  split at h
  · simp at h
  · exact (Except.ok.inj h).symm

theorem current_yields : Yields N current fun t => ∀ n, t = some (.name n) → N n := by
  intro ts t rest hN h
  simp only [current, Except.ok.injEq, Prod.mk.injEq] at h
  rw [← h.1, ← h.2]
  exact ⟨List.suffix_refl _, fun n hn => hN n (List.mem_of_mem_head? hn)⟩

theorem advance_yields : Yields N advance fun _ => True := by
  intro ts a rest _ h
  unfold advance at h
  obtain ⟨r, hs, ⟨⟩⟩ := Outcome.map_eq_ok.1 h
  rw [sound_eq_ok hs]
  exact ⟨List.tail_suffix ts, trivial⟩

theorem following_yields : Yields N following fun _ => True := by
  intro ts a rest _ h
  unfold following at h
  obtain ⟨r, hs, ⟨⟩⟩ := Outcome.map_eq_ok.1 h
  exact ⟨List.suffix_refl _, trivial⟩

theorem isAt_yields (p : Punct) : Yields N (isAt p) fun _ => True :=
  current_yields.bind fun _ _ => .pure trivial

theorem accept_yields (p : Punct) : Yields N (accept p) fun _ => True :=
  (isAt_yields p).bind fun _ _ => .ite (fun _ => advance_yields.bind fun _ _ => .pure trivial) fun _ => .pure trivial

theorem expect_yields (p : Punct) : Yields N (expect p) fun _ => True :=
  (accept_yields p).bind fun _ _ =>
    .ite (fun _ => .pure trivial) fun _ => current_yields.bind fun _ _ => refuse_yields _

theorem name_yields : Yields N name N := by
  refine current_yields.bind fun t ht => ?_
  split
  · rename_i n
    exact advance_yields.bind fun _ _ => .pure (ht n rfl)
  · exact refuse_yields _

/-- a name that is taken is the first token -/
theorem name_eq_ok {ts rest : List Token} {n : String} (h : name ts = .ok (n, rest)) : ts = .name n :: rest := by
  obtain ⟨t, mid, ht, h⟩ := bind_eq_ok.1 h
  simp only [current, Except.ok.injEq, Prod.mk.injEq] at ht
  obtain ⟨rfl, rfl⟩ := ht
  match ts, h with
  | .name m :: us, h =>
    obtain ⟨_, mid, ha, h⟩ := bind_eq_ok.1 h
    obtain ⟨rfl, rfl⟩ := pure_eq_ok.1 h
    simp only [advance, List.tail_cons] at ha
    obtain ⟨r, hs, ⟨⟩⟩ := Outcome.map_eq_ok.1 ha
    rw [sound_eq_ok hs]

theorem acceptKeyword_yields (k : String) : Yields N (acceptKeyword k) fun _ => True :=
  current_yields.bind fun _ _ =>
    .ite (fun _ => advance_yields.bind fun _ _ => .pure trivial) fun _ => .pure trivial

theorem keyword_yields (k : String) : Yields N (keyword k) fun _ => True :=
  (acceptKeyword_yields k).bind fun _ _ =>
    .ite (fun _ => .pure trivial) fun _ => current_yields.bind fun _ _ => refuse_yields _

theorem description_yields : Yields N description fun _ => True := by
  refine current_yields.bind fun t _ => ?_
  split
  · exact advance_yields
  · exact advance_yields
  · exact .pure trivial

/-! ## Repetitions -/

/-- a step of a repetition: the items after the first are made of what it leaves -/
theorem Yields.cons {item : Parser α} {items : Parser (List α)} (h : Yields N item P) {ts mid rest : List Token} {a : α}
    {as : List α} (hN : ∀ n, Token.name n ∈ ts → N n) (ha : item ts = .ok (a, mid)) (has : items mid = .ok (as, rest))
    (ih : (∀ n, Token.name n ∈ mid → N n) → items mid = .ok (as, rest) → rest <:+ mid ∧ ∀ a ∈ as, P a) :
    rest <:+ ts ∧ ∀ x ∈ a :: as, P x := by
  obtain ⟨hmid, hP⟩ := h ts a mid hN ha
  obtain ⟨hrest, hPs⟩ := ih (fun n hn => hN n (hmid.subset hn)) has
  exact ⟨hrest.trans hmid, List.forall_mem_cons.2 ⟨hP, hPs⟩⟩

theorem upTo_yields (close : Punct) {item : Parser α} (h : Yields N item P) :
    Yields N (upTo close item) fun as => ∀ a ∈ as, P a := by
  intro ts as rest hN hs
  fun_induction upTo close item ts generalizing as rest with
  | case1 ts hclose =>
    obtain ⟨r, ht, ⟨⟩⟩ := Outcome.map_eq_ok.1 hs
    rw [sound_eq_ok ht]
    exact ⟨List.tail_suffix ts, by simp⟩
  | case2 ts hclose e he => simp at hs
  | case3 ts hclose a mid ha hlt ih =>
    obtain ⟨r, hm, ⟨⟩⟩ := Outcome.map_eq_ok.1 hs
    exact h.cons hN ha hm fun hN' hm' => ih r.1 r.2 hN' hm'
  | case4 ts hclose a mid ha hlt => simp at hs

theorem whileAt_yields (p : Punct) {item : Parser α} (h : Yields N item P) :
    Yields N (whileAt p item) fun as => ∀ a ∈ as, P a := by
  intro ts as rest hN hs
  fun_induction whileAt p item ts generalizing as rest with
  | case1 ts hp e he => simp at hs
  | case2 ts hp a mid ha hlt ih =>
    obtain ⟨r, hm, ⟨⟩⟩ := Outcome.map_eq_ok.1 hs
    exact h.cons hN ha hm fun hN' hm' => ih r.1 r.2 hN' hm'
  | case3 ts hp a mid ha hlt => simp at hs
  | case4 ts hp =>
    simp only [Except.ok.injEq, Prod.mk.injEq] at hs
    rw [← hs.1, ← hs.2]
    exact ⟨List.suffix_refl _, by simp⟩

theorem upToEnd_yields {item : Parser α} (h : Yields N item P) {ts : List Token} {as : List α}
    (hN : ∀ n, Token.name n ∈ ts → N n) (hs : upToEnd item ts = .ok as) : ∀ a ∈ as, P a := by
  fun_induction upToEnd item ts generalizing as with
  | case1 => simp_all
  | case2 => simp at hs
  | case3 ts hne a mid ha hlt ih =>
    obtain ⟨as', hm, rfl⟩ := Outcome.map_eq_ok.1 hs
    obtain ⟨hmid, hP⟩ := h ts a mid hN ha
    exact List.forall_mem_cons.2 ⟨hP, ih (fun n hn => hN n (hmid.subset hn)) hm⟩
  | case4 => simp at hs

theorem between_yields (opening close : Punct) {item : Parser α} (h : Yields N item P) :
    Yields N (between opening close item) fun as => ∀ a ∈ as, P a :=
  (expect_yields opening).bind fun _ _ => upTo_yields close h

theorem someBetween_yields (opening close : Punct) {item : Parser α} (h : Yields N item P) :
    Yields N (someBetween opening close item) fun as => ∀ a ∈ as, P a := by
  refine (expect_yields opening).bind fun _ _ => h.bind fun a ha => ?_
  exact (upTo_yields close h).bind fun as has => .pure (List.forall_mem_cons.2 ⟨ha, has⟩)

theorem optionalBetween_yields (opening close : Punct) {item : Parser α} (h : Yields N item P) :
    Yields N (optionalBetween opening close item) fun as => ∀ a ∈ as, P a :=
  (isAt_yields opening).bind fun _ _ => .ite (fun _ => someBetween_yields opening close h) fun _ => .pure (by simp)

theorem separated_yields (p : Punct) {item : Parser α} (h : Yields N item P) :
    Yields N (separated p item) fun as => ∀ a ∈ as, P a := by
  refine (accept_yields p).bind fun _ _ => h.bind fun a ha => ?_
  refine (whileAt_yields p (advance_yields.bind fun _ _ => h)).bind fun as has => ?_
  exact .pure (List.forall_mem_cons.2 ⟨ha, has⟩)

end SchemaTypings.Sdl.Parser
