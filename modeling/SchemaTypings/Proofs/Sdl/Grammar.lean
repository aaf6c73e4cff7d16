/-
What a document of declared definitions is made of.

`Takes p G`: the tokens that the parser `p` takes are in the relation `G` with what it makes of them. There is one lemma
for each rule that has a part in a declared definition, up to `record_takes` and `enum_takes`; no other rule makes one
(`definition_takes`). So what is accepted is what the grammar of decorated definitions has, and no more. With the
converse, `document_iff`: tokens are declared definitions to the parser exactly if they are decorated definitions within
the limit on lists. Documents below each other are a document (`document_append`).
-/
import SchemaTypings.Proofs.Sdl.Decorated
import SchemaTypings.Proofs.Sdl.ParsedDefinition

namespace SchemaTypings.Sdl.Parser

open SchemaTypings.Schema

variable {α β : Type} {G : α → List Token → Prop} {H : β → List Token → Prop} {ts rest : List Token} {levels : Nat}

/-- what a parser makes is in the relation with the tokens it takes -/
def Takes (p : Parser α) (G : α → List Token → Prop) : Prop :=
  ∀ ts a rest, p ts = .ok (a, rest) → ∃ us, ts = us ++ rest ∧ G a us

/-! ## Putting rules together -/

theorem Takes.pure {a : α} (h : G a []) : Takes (pure a) G := by
  intro ts b rest hb
  obtain ⟨rfl, rfl⟩ := pure_eq_ok.1 hb
  exact ⟨[], rfl, h⟩

theorem Takes.bind {p : Parser α} {f : α → Parser β} (hp : Takes p G)
    (hf : ∀ a us, G a us → Takes (f a) fun b vs => H b (us ++ vs)) : Takes (p >>= f) H := by
  intro ts b rest h
  obtain ⟨a, mid, ha, hb⟩ := bind_eq_ok.1 h
  obtain ⟨us, rfl, hG⟩ := hp ts a mid ha
  obtain ⟨vs, rfl, hH⟩ := hf a us hG mid b rest hb
  exact ⟨us ++ vs, (List.append_assoc us vs rest).symm, hH⟩

theorem Takes.ite {c : Prop} [Decidable c] {p q : Parser α} (hp : c → Takes p G) (hq : ¬c → Takes q G) :
    Takes (if c then p else q) G := by
  split_ifs with h
  · exact hp h
  · exact hq h

theorem Takes.mono {G' : α → List Token → Prop} {p : Parser α} (hp : Takes p G) (h : ∀ a us, G a us → G' a us) :
    Takes p G' := by
  intro ts a rest ha
  obtain ⟨us, hts, hG⟩ := hp ts a rest ha
  exact ⟨us, hts, h a us hG⟩

theorem refuse_takes (c : Cause) : Takes (refuse c) G := fun _ _ _ h => nomatch h

theorem unexpected_takes : Takes unexpected G := fun _ _ _ h => nomatch h

theorem unexpectedNext_takes (t : Option Token) {G : Definition String → List Token → Prop} :
    Takes (unexpectedNext t) G := fun _ _ _ h => nomatch h

/-- what a parser makes where the current token is known -/
def TakesAt (t : Option Token) (p : Parser α) (G : α → List Token → Prop) : Prop :=
  ∀ ts a rest, ts.head? = t → p ts = .ok (a, rest) → ∃ us, ts = us ++ rest ∧ G a us

theorem TakesAt.mono {G' : α → List Token → Prop} {t : Option Token} {p : Parser α} (hp : TakesAt t p G)
    (h : ∀ a us, G a us → G' a us) : TakesAt t p G' := by
  intro ts a rest ht ha
  obtain ⟨us, hts, hG⟩ := hp ts a rest ht ha
  exact ⟨us, hts, h a us hG⟩

theorem Takes.at (t : Option Token) {p : Parser α} (hp : Takes p G) : TakesAt t p G := fun ts a rest _ => hp ts a rest

theorem TakesAt.bind {t : Option Token} {p : Parser α} {f : α → Parser β} (hp : TakesAt t p G)
    (hf : ∀ a us, G a us → Takes (f a) fun b vs => H b (us ++ vs)) : TakesAt t (p >>= f) H := by
  intro ts b rest ht h
  obtain ⟨a, mid, ha, hb⟩ := bind_eq_ok.1 h
  obtain ⟨us, rfl, hG⟩ := hp ts a mid ht ha
  obtain ⟨vs, rfl, hH⟩ := hf a us hG mid b rest hb
  exact ⟨us ++ vs, (List.append_assoc us vs rest).symm, hH⟩

/-- a rule that looks at the current token goes on with it -/
theorem takes_current_bind {f : Option Token → Parser β} (h : ∀ t, TakesAt t (f t) H) : Takes (current >>= f) H := by
  intro ts b rest hb
  rw [run_bind (current_eq ts)] at hb
  exact h ts.head? ts b rest rfl hb

/-! ## Single tokens -/

theorem advance_takes (t : Token) : TakesAt (some t) advance fun _ us => us = [t] := by
  intro ts _ rest ht h
  obtain ⟨us, rfl⟩ : ∃ us, ts = t :: us := List.head?_eq_some_iff.1 ht
  obtain ⟨r, hs, ⟨⟩⟩ := Outcome.map_eq_ok.1 h
  rw [sound_eq_ok hs]
  exact ⟨[t], rfl, rfl⟩

theorem current_takes : Takes current fun _ us => us = [] := by
  intro ts t rest h
  simp only [current, Except.ok.injEq, Prod.mk.injEq] at h
  exact ⟨[], h.2, rfl⟩

theorem following_takes : Takes following fun _ us => us = [] := by
  intro ts t rest h
  unfold following at h
  obtain ⟨r, hs, ⟨⟩⟩ := Outcome.map_eq_ok.1 h
  exact ⟨[], rfl, rfl⟩

theorem isAt_takes (p : Punct) : Takes (isAt p) fun _ us => us = [] :=
  current_takes.bind fun _ _ hus => .pure (by rw [hus]; rfl)

theorem accept_takes (p : Punct) : Takes (accept p) fun b us => us = if b then [.punct p] else [] := by
  intro ts b rest h
  by_cases hp : ts.head? = some (.punct p)
  · rw [accept, run_bind (isAt_eq p ts), if_pos (decide_eq_true hp)] at h
    have htake : TakesAt (some (.punct p)) (do advance; return true) fun b us => us = if b then [.punct p] else [] :=
      (advance_takes _).bind fun _ us hus => .pure (by rw [hus]; rfl)
    exact htake ts b rest hp h
  · rw [accept_of_ne hp] at h
    obtain ⟨rfl, rfl⟩ := Prod.mk.inj (Except.ok.inj h)
    exact ⟨[], rfl, rfl⟩

theorem expect_takes (p : Punct) : Takes (expect p) fun _ us => us = [.punct p] := by
  refine (accept_takes p).bind fun b us hus => .ite (fun hb => .pure ?_) fun _ => ?_
  · rw [hus, if_pos hb]
    rfl
  · exact current_takes.bind fun _ _ _ => refuse_takes _

theorem name_takes : Takes name fun n us => us = [.name n] := by
  intro ts n rest h
  exact ⟨[.name n], name_eq_ok h, rfl⟩

theorem acceptKeyword_takes (k : String) :
    Takes (acceptKeyword k) fun b us => us = if b then [.name k] else [] := by
  refine takes_current_bind fun t => ?_
  split_ifs with hk
  · rw [hk]
    exact (advance_takes _).bind fun _ us hus => .pure (by rw [hus]; rfl)
  · exact (Takes.pure (by simp)).at t

theorem keyword_takes (k : String) : Takes (keyword k) fun _ us => us = [.name k] := by
  refine (acceptKeyword_takes k).bind fun b us hus => .ite (fun hb => .pure ?_) fun _ => ?_
  · rw [hus, if_pos hb]
    rfl
  · exact current_takes.bind fun _ _ _ => refuse_takes _

theorem description_takes : Takes description fun _ us => IsDescription us := by
  refine takes_current_bind fun t => ?_
  split
  · next v => exact (advance_takes _).mono fun _ us hus => .inr ⟨v, .inl hus⟩
  · next v => exact (advance_takes _).mono fun _ us hus => .inr ⟨v, .inr hus⟩
  · exact (Takes.pure (.inl rfl)).at _

/-! ## Repetitions -/

theorem upTo_takes (close : Punct) {item : Parser α} (h : Takes item G) :
    Takes (upTo close item) fun as us => ∃ tss, List.Forall₂ G as tss ∧ us = tss.flatten ++ [.punct close] := by
  intro ts as rest hs
  fun_induction upTo close item ts generalizing as rest with
  | case1 ts hclose =>
    have hadvance : advance ts = .ok ((), rest) ∧ as = [] := by
      obtain ⟨r, ht, ⟨⟩⟩ := Outcome.map_eq_ok.1 hs
      exact ⟨Outcome.map_eq_ok.2 ⟨rest, ht, rfl⟩, rfl⟩
    obtain ⟨hadvance, rfl⟩ := hadvance
    obtain ⟨us, hts, rfl⟩ := advance_takes (.punct close) ts () rest hclose hadvance
    exact ⟨_, hts, [], .nil, rfl⟩
  | case2 ts hclose e he => cases hs
  | case3 ts hclose a mid ha hlt ih =>
    obtain ⟨r, hm, ⟨⟩⟩ := Outcome.map_eq_ok.1 hs
    obtain ⟨us, rfl, hG⟩ := h ts a mid ha
    obtain ⟨vs, hmid, tss, htss, rfl⟩ := ih r.1 r.2 hm
    refine ⟨us ++ (tss.flatten ++ [.punct close]), ?_, us :: tss, .cons hG htss, ?_⟩
    · rw [List.append_assoc, ← hmid]
    · rw [List.flatten_cons, List.append_assoc]
  | case4 ts hclose a mid ha hlt => cases hs

theorem whileAt_takes (p : Punct) {item : Parser α} (h : TakesAt (some (.punct p)) item G) :
    Takes (whileAt p item) fun as us => ∃ tss, List.Forall₂ G as tss ∧ us = tss.flatten := by
  intro ts as rest hs
  fun_induction whileAt p item ts generalizing as rest with
  | case1 ts hp e he => cases hs
  | case2 ts hp a mid ha hlt ih =>
    obtain ⟨r, hm, ⟨⟩⟩ := Outcome.map_eq_ok.1 hs
    obtain ⟨us, rfl, hG⟩ := h ts a mid hp ha
    obtain ⟨vs, hmid, tss, htss, rfl⟩ := ih r.1 r.2 hm
    refine ⟨us ++ tss.flatten, ?_, us :: tss, .cons hG htss, rfl⟩
    rw [List.append_assoc, ← hmid]
  | case3 ts hp a mid ha hlt => cases hs
  | case4 ts hp =>
    obtain ⟨rfl, rfl⟩ := Prod.mk.inj (Except.ok.inj hs)
    exact ⟨[], rfl, [], .nil, rfl⟩

theorem upToEnd_takes {item : Parser α} (h : Takes item G) {as : List α} (hs : upToEnd item ts = .ok as) :
    ∃ tss, List.Forall₂ G as tss ∧ ts = tss.flatten := by
  fun_induction upToEnd item ts generalizing as with
  | case1 =>
    obtain rfl := Except.ok.inj hs
    exact ⟨[], .nil, rfl⟩
  | case2 => cases hs
  | case3 ts hne a mid ha hlt ih =>
    obtain ⟨as', hm, rfl⟩ := Outcome.map_eq_ok.1 hs
    obtain ⟨us, rfl, hG⟩ := h ts a mid ha
    obtain ⟨tss, htss, rfl⟩ := ih hm
    exact ⟨us :: tss, .cons hG htss, rfl⟩
  | case4 => cases hs

theorem between_takes (opening close : Punct) {item : Parser α} (h : Takes item G) :
    Takes (between opening close item) fun as us =>
      ∃ tss, List.Forall₂ G as tss ∧ us = .punct opening :: (tss.flatten ++ [.punct close]) := by
  refine (expect_takes opening).bind fun _ us hus ts as rest hs => ?_
  obtain ⟨vs, rfl, tss, htss, rfl⟩ := upTo_takes close h ts as rest hs
  exact ⟨_, rfl, tss, htss, by rw [hus]; rfl⟩

theorem optionalBetween_takes (opening close : Punct) {item : Parser α} (h : Takes item G) :
    Takes (optionalBetween opening close item) fun as us =>
      ∃ tss, List.Forall₂ G as tss ∧ us = optionalTokens opening close tss := by
  refine (isAt_takes opening).bind fun b us hus => ?_
  subst hus
  refine .ite (fun _ => ?_) fun _ => .pure ⟨[], .nil, rfl⟩
  refine (expect_takes opening).bind fun _ us hus => h.bind fun a vs hG => ?_
  refine (upTo_takes close h).bind fun as ws hws => .pure ?_
  obtain ⟨tss, htss, rfl⟩ := hws
  exact ⟨vs :: tss, .cons hG htss, by simp [optionalTokens, hus]⟩

/-! ## Types -/

theorem typeWith_takes {item : Parser (TypeRef String)} (n : Nat)
    (h : Takes item fun t us => us = typeTokens t ∧ t.lists < n) :
    Takes (typeWith item) fun t us => us = typeTokens t ∧ t.lists ≤ n := by
  have hmark : ∀ (t : TypeRef String) (us : List Token), us = typeTokens t ∧ t.lists ≤ n →
      Takes (do if ← accept .bang then return .nonNull t else return t)
        fun t vs => us ++ vs = typeTokens t ∧ t.lists ≤ n := by
    rintro t us ⟨rfl, hl⟩
    refine (accept_takes .bang).bind fun b vs hvs => .ite (fun hb => .pure ⟨?_, hl⟩) fun hb => .pure ⟨?_, hl⟩
    · rw [hvs, if_pos hb]
      rfl
    · rw [hvs, if_neg hb, List.append_nil, List.append_nil]
  have hpure : ∀ t : TypeRef String, Takes (pure t : Parser (TypeRef String)) fun u us => u = t ∧ us = [] := fun t =>
    .pure ⟨rfl, rfl⟩
  refine (accept_takes _).bind fun b us hus => .ite (fun hb => ?_) fun hb => ?_
  · rw [if_pos hb] at hus
    refine h.bind fun t vs ht => (expect_takes _).bind fun _ ws hws => (hpure _).bind fun u xs hu => ?_
    obtain ⟨rfl, rfl⟩ := hu
    have hlist : us ++ (vs ++ (ws ++ [])) = typeTokens (.list t) ∧ (TypeRef.list t).lists ≤ n :=
      ⟨by rw [hus, ht.1, hws]; simp [typeTokens], ht.2⟩
    simpa using hmark _ _ hlist
  · rw [if_neg hb] at hus
    refine name_takes.bind fun m vs hvs => (hpure _).bind fun u xs hu => ?_
    obtain ⟨rfl, rfl⟩ := hu
    have hleaf : us ++ (vs ++ []) = typeTokens (.leaf m) ∧ (TypeRef.leaf m).lists ≤ n :=
      ⟨by rw [hus, hvs]; rfl, Nat.zero_le n⟩
    simpa using hmark _ _ hleaf

/-- **A type is taken from its own tokens**, and has no more lists around each other than there are levels. -/
theorem typeRef_takes (levels : Nat) : Takes (typeRef levels) fun t us => us = typeTokens t ∧ t.lists ≤ levels := by
  induction levels with
  | zero => exact typeWith_takes 0 (refuse_takes _)
  | succ levels ih =>
    refine typeWith_takes (levels + 1) fun ts t rest h => ?_
    obtain ⟨us, hts, hus, hl⟩ := ih ts t rest h
    exact ⟨us, hts, hus, Nat.lt_succ_of_le hl⟩

/-! ## Values and directives -/

/-- tokens of a value with a name in front, as in objects and arguments -/
def IsEntry (levels : Nat) (ts : List Token) : Prop :=
  ∃ e : String × List Token, IsConstant levels e.2 ∧ ts = entryTokens e

theorem entry_takes {item : Parser Unit} (h : Takes item fun _ us => IsConstant levels us) :
    Takes (do let _ ← name; expect .colon; item) fun _ us => IsEntry levels us := by
  refine name_takes.bind fun n us hus => (expect_takes _).bind fun _ vs hvs ts _ rest hs => ?_
  obtain ⟨ws, rfl, hc⟩ := h ts () rest hs
  exact ⟨ws, rfl, ⟨n, ws⟩, hc, by rw [hus, hvs]; rfl⟩

/-- of items that make nothing only the tokens matter -/
theorem forall_of_forall₂_units {P : List Token → Prop} {as : List Unit} {tss : List (List Token)}
    (h : List.Forall₂ (fun _ us => P us) as tss) : ∀ us ∈ tss, P us := by
  induction h with
  | nil => simp
  | cons h _ ih => exact List.forall_mem_cons.2 ⟨h, ih⟩

theorem exists_entries {tss : List (List Token)} (h : ∀ us ∈ tss, IsEntry levels us) :
    ∃ entries : List (String × List Token), (∀ e ∈ entries, IsConstant levels e.2) ∧ tss = entries.map entryTokens := by
  induction tss with
  | nil => exact ⟨[], by simp, rfl⟩
  | cons us tss ih =>
    obtain ⟨⟨e, hc, rfl⟩, htss⟩ := List.forall_mem_cons.1 h
    obtain ⟨entries, hcs, rfl⟩ := ih htss
    exact ⟨e :: entries, List.forall_mem_cons.2 ⟨hc, hcs⟩, rfl⟩

theorem collection_takes {item : Parser Unit} (h : Takes item fun _ us => IsConstant levels us) :
    Takes (collection item) fun _ us => IsConstant (levels + 1) us := by
  refine (isAt_takes _).bind fun b us hus => ?_
  subst hus
  refine .ite (fun _ => ?_) fun _ => ?_
  · refine (between_takes _ _ h).bind fun as us hus => .pure ?_
    obtain ⟨tss, htss, rfl⟩ := hus
    simpa using IsConstant.list (forall_of_forall₂_units htss)
  · refine (between_takes _ _ (entry_takes h)).bind fun as us hus => .pure ?_
    obtain ⟨tss, htss, rfl⟩ := hus
    obtain ⟨entries, hcs, rfl⟩ := exists_entries (forall_of_forall₂_units htss)
    simpa using IsConstant.object hcs

/-- in a constant value no variable is accepted -/
theorem variableValue_takes : Takes (variableValue true) fun _ us => IsConstant levels us := by
  intro ts a rest h
  obtain ⟨_, mid, _, h⟩ := bind_eq_ok.1 h
  obtain ⟨t, _, _, h⟩ := bind_eq_ok.1 h
  split at h
  · cases h
  · cases h

theorem valueWith_takes {nested : Parser Unit} (h : Takes nested fun _ us => IsConstant levels us) :
    Takes (valueWith true nested) fun _ us => IsConstant levels us := by
  have hone : ∀ t, IsConstant levels [t] → TakesAt (some t) advance fun _ us => IsConstant levels us := fun t ht =>
    (advance_takes t).mono fun _ us hus => hus ▸ ht
  refine takes_current_bind fun t => ?_
  split
  · exact h.at _
  · exact h.at _
  · exact variableValue_takes.at _
  · exact hone _ (.int _)
  · exact hone _ (.float _)
  · exact hone _ (.string _)
  · exact hone _ (.block _)
  · exact hone _ (.name _)
  · exact unexpected_takes.at _

theorem value_takes (levels : Nat) : Takes (value true levels) fun _ us => IsConstant levels us := by
  induction levels with
  | zero => exact valueWith_takes (refuse_takes _)
  | succ levels ih => exact valueWith_takes (collection_takes ih)

theorem directive_takes (levels : Nat) : Takes (directive true levels) fun _ us => IsDirective levels us := by
  refine (expect_takes _).bind fun _ us hus => name_takes.bind fun n vs hvs => ?_
  refine (optionalBetween_takes _ _ (entry_takes (value_takes levels))).bind fun as ws hws => .pure ?_
  obtain ⟨tss, htss, rfl⟩ := hws
  obtain ⟨entries, hcs, rfl⟩ := exists_entries (forall_of_forall₂_units htss)
  rw [hus, hvs]
  simpa using IsDirective.mk n hcs

theorem constantDirectives_takes : Takes constantDirectives fun _ us => IsDirectives levelLimit us := by
  refine (whileAt_takes _ ((directive_takes levelLimit).at _)).bind fun as us hus => .pure ?_
  obtain ⟨tss, htss, rfl⟩ := hus
  exact ⟨tss, forall_of_forall₂_units htss, List.append_nil _⟩

theorem defaultValue_takes : Takes defaultValue fun _ us => IsDefault levelLimit us := by
  refine (accept_takes _).bind fun b us hus => .ite (fun hb => ?_) fun hb => .pure (.inl ?_)
  · intro ts _ rest h
    obtain ⟨vs, rfl, hc⟩ := value_takes levelLimit ts () rest h
    exact ⟨vs, rfl, .inr ⟨vs, hc, by rw [hus, if_pos hb]; rfl⟩⟩
  · rw [hus, if_neg hb]
    rfl

/-! ## Arguments and members -/

theorem inputValue_takes :
    Takes inputValue fun a us => a.type.lists ≤ levelLimit ∧ DecoratesArgument levelLimit a us := by
  refine description_takes.bind fun _ us hus => name_takes.bind fun n vs hvs => ?_
  refine (expect_takes _).bind fun _ ws hws => (typeRef_takes _).bind fun t xs ht => ?_
  refine defaultValue_takes.bind fun _ ys hys => constantDirectives_takes.bind fun _ zs hzs => .pure ⟨ht.2, ?_⟩
  rw [hvs, hws, ht.1]
  simpa [argumentTokens] using DecoratesArgument.mk (a := ⟨n, t⟩) hus hys hzs

/-- a member within the limit and tokens of it -/
def Decorated (m : Member String) (ts : List Token) : Prop :=
  (∀ t ∈ m.types, t.lists ≤ levelLimit) ∧ DecoratesMember levelLimit m ts

theorem field_takes : Takes field Decorated := by
  refine description_takes.bind fun _ us hus => name_takes.bind fun n vs hvs => ?_
  refine (optionalBetween_takes _ _ inputValue_takes).bind fun args ws hargs => ?_
  refine (expect_takes _).bind fun _ xs hxs => (typeRef_takes _).bind fun t ys ht => ?_
  refine constantDirectives_takes.bind fun _ zs hzs => .pure ?_
  obtain ⟨tss, htss, rfl⟩ := hargs
  obtain ⟨hlists, htss⟩ := (List.forall₂_and_left _ _).1 htss
  refine ⟨List.forall_mem_cons.2 ⟨ht.2, List.forall_mem_map.2 hlists⟩, ?_⟩
  rw [hvs, hxs, ht.1]
  simpa using DecoratesMember.field (n := n) (t := t) hus htss hzs

theorem inputField_takes : Takes inputField Decorated := by
  refine inputValue_takes.bind fun a us ha => .pure ⟨List.forall_mem_singleton.2 ha.1, ?_⟩
  rw [List.append_nil]
  exact .input ha.2

theorem members_takes (k : RecordKind) :
    Takes (members k) fun ms us => ∃ tss, List.Forall₂ Decorated ms tss ∧
      us = optionalTokens .braceOpen .braceClose tss := by
  cases k with
  | object => exact optionalBetween_takes _ _ field_takes
  | interface => exact optionalBetween_takes _ _ field_takes
  | inputObject => exact optionalBetween_takes _ _ inputField_takes

theorem interfaces_takes : Takes interfaces fun _ us => IsInterfaces us := by
  refine (acceptKeyword_takes _).bind fun b us hus => .ite (fun hb => ?_) fun hb => .pure ?_
  · rw [if_pos hb] at hus
    refine Takes.bind (G := fun _ vs => IsInterfaces (.name "implements" :: vs)) ?_ fun _ vs hvs => .pure ?_
    · refine (accept_takes _).bind fun lead vs hvs => name_takes.bind fun n ws hws => ?_
      have hnext : TakesAt (some (.punct .ampersand)) (do advance; name)
          fun m us => us = [.punct .ampersand, .name m] := by
        refine (advance_takes _).bind fun _ us hus ts m rest h => ?_
        exact ⟨[.name m], name_eq_ok h, by rw [hus]; rfl⟩
      refine (whileAt_takes _ hnext).bind fun ns xs hns => .pure ?_
      obtain ⟨tss, htss, rfl⟩ := hns
      have htokens : tss = ns.map fun m => [.punct .ampersand, .name m] := by
        rw [← List.forall₂_eq_eq_eq, List.forall₂_map_right_iff]
        exact htss.flip
      have hlead : vs = [] ∨ vs = [.punct .ampersand] := by
        rw [hvs]
        cases lead with
        | true => exact .inr rfl
        | false => exact .inl rfl
      rw [hws, htokens]
      simpa using IsInterfaces.some n ns hlead
    · rw [hus, List.append_nil]
      exact hvs
  · rw [hus, if_neg hb]
    exact .none

theorem interfacesOf_takes (k : RecordKind) :
    Takes (interfacesOf k) fun _ us => IsInterfaces us ∧ (k = .inputObject → us = []) := by
  have h : k ≠ .inputObject → Takes interfaces fun _ us => IsInterfaces us ∧ (k = .inputObject → us = []) := by
    intro hk ts a rest hs
    obtain ⟨us, hts, hus⟩ := interfaces_takes ts a rest hs
    exact ⟨us, hts, hus, fun hk' => absurd hk' hk⟩
  cases k with
  | object => exact h (by decide)
  | interface => exact h (by decide)
  | inputObject => exact .pure ⟨.none, fun _ => rfl⟩

theorem enumValue_takes : Takes enumValue (DecoratesValue levelLimit) := by
  refine description_takes.bind fun _ us hus => takes_current_bind fun t => Takes.at t (.ite (fun _ => ?_) fun _ => ?_)
  · exact (refuse_takes (G := fun _ _ => False) _).bind fun _ _ h => h.elim
  · refine name_takes.bind fun n vs hvs => constantDirectives_takes.bind fun _ ws hws => .pure ?_
    rw [hvs]
    simpa using DecoratesValue.mk (v := n) hus hws

theorem enumValues_takes :
    Takes enumValues fun vs us => ∃ tss, List.Forall₂ (DecoratesValue levelLimit) vs tss ∧
      us = optionalTokens .braceOpen .braceClose tss :=
  optionalBetween_takes _ _ enumValue_takes

/-! ## Declared definitions -/

/-- a definition within the limit and tokens of it -/
def DecoratedDefinition (d : Definition String) (ts : List Token) : Prop :=
  (∀ t ∈ d.types, t.lists ≤ levelLimit) ∧ DecoratesDefinition levelLimit d ts

theorem record_takes (k : RecordKind) : Takes (record k) DecoratedDefinition := by
  refine description_takes.bind fun _ us hus => (keyword_takes _).bind fun _ vs hvs => ?_
  refine name_takes.bind fun n ws hws => (interfacesOf_takes k).bind fun _ xs hxs => ?_
  refine constantDirectives_takes.bind fun _ ys hys => (members_takes k).bind fun ms zs hms => .pure ?_
  obtain ⟨tss, htss, rfl⟩ := hms
  obtain ⟨hlists, htss⟩ := (List.forall₂_and_left _ _).1 htss
  refine ⟨fun t ht => ?_, ?_⟩
  · obtain ⟨m, hm, ht⟩ := List.mem_flatMap.1 ht
    exact hlists m hm t ht
  · rw [hvs, hws]
    simpa using DecoratesDefinition.record (n := n) hus hxs.1 hxs.2 hys htss

theorem enum_takes : Takes enum DecoratedDefinition := by
  refine description_takes.bind fun _ us hus => (keyword_takes _).bind fun _ vs hvs => ?_
  refine name_takes.bind fun n ws hws => constantDirectives_takes.bind fun _ xs hxs => ?_
  refine enumValues_takes.bind fun as ys hys => .pure ⟨by simp [Definition.types], ?_⟩
  obtain ⟨tss, htss, rfl⟩ := hys
  rw [hvs, hws]
  simpa using DecoratesDefinition.enum (n := n) hus hxs htss

/-! ## Other definitions -/

/-- rules that make no declared definition -/
def Undeclared (p : Parser (Definition String)) : Prop := ∀ ts d rest, p ts = .ok (d, rest) → d.isDeclared = false

theorem Undeclared.pure {d : Definition String} (h : d.isDeclared = false) : Undeclared (pure d) := by
  intro ts d' rest hd
  obtain ⟨rfl, _⟩ := pure_eq_ok.1 hd
  exact h

theorem Undeclared.bind {p : Parser α} {f : α → Parser (Definition String)} (h : ∀ a, Undeclared (f a)) :
    Undeclared (p >>= f) := by
  intro ts d rest hd
  obtain ⟨a, mid, _, hd⟩ := bind_eq_ok.1 hd
  exact h a mid d rest hd

theorem nonempty_undeclared (adds : Bool) {d : Definition String} (h : d.isDeclared = false) :
    Undeclared (nonempty adds d) := by
  unfold nonempty
  split_ifs
  · exact .pure h
  · exact fun ts d rest h => nomatch h

theorem shorthandOperation_undeclared : Undeclared shorthandOperation := .bind fun _ => .pure rfl

theorem operation_undeclared (k : String) : Undeclared (operation k) := by
  have hend : ∀ n : Option String, Undeclared (do
      let _ ← optionalBetween .parenOpen .parenClose variableDefinition
      let _ ← directives false levelLimit
      selectionSet levelLimit
      return .other .operationDefinition n []) :=
    fun n => .bind fun _ => .bind fun _ => .bind fun _ => .pure rfl
  refine .bind fun _ => .bind fun _ => .bind fun t => ?_
  split
  · exact .bind hend
  · exact .bind hend

theorem fragment_undeclared : Undeclared fragment :=
  .bind fun _ => .bind fun _ => .bind fun _ => .bind fun _ => .bind fun _ => .bind fun _ => .bind fun _ => .pure rfl

theorem schema_undeclared : Undeclared schema := .bind fun _ => .bind fun _ => .bind fun _ => .bind fun _ => .pure rfl

theorem scalar_undeclared : Undeclared scalar := .bind fun _ => .bind fun _ => .bind fun _ => .bind fun _ => .pure rfl

theorem union_undeclared : Undeclared union :=
  .bind fun _ => .bind fun _ => .bind fun _ => .bind fun _ => .bind fun _ => .pure rfl

theorem directiveDefinition_undeclared : Undeclared directiveDefinition :=
  .bind fun _ => .bind fun _ => .bind fun _ => .bind fun _ => .bind fun _ => .bind fun _ => .bind fun _ =>
    .bind fun _ => .bind fun _ => .pure rfl

theorem extensionOf?_undeclared {k : String} {rule : Parser (Definition String)} (h : extensionOf? k = some rule) :
    Undeclared rule := by
  have hrecord : ∀ k, Undeclared (extendRecord k) := fun k =>
    .bind fun _ => .bind fun _ => .bind fun _ => .bind fun _ => .bind fun _ => .bind fun _ => nonempty_undeclared _ rfl
  unfold extensionOf? at h
  split at h
  all_goals cases h
  · exact .bind fun _ => .bind fun _ => .bind fun _ => .bind fun _ => nonempty_undeclared _ rfl
  · exact .bind fun _ => .bind fun _ => .bind fun _ => .bind fun _ => nonempty_undeclared _ rfl
  · exact hrecord _
  · exact hrecord _
  · exact .bind fun _ => .bind fun _ => .bind fun _ => .bind fun _ => .bind fun _ => nonempty_undeclared _ rfl
  · exact .bind fun _ => .bind fun _ => .bind fun _ => .bind fun _ => .bind fun _ => nonempty_undeclared _ rfl
  · exact hrecord _
  · exact .bind fun _ => .bind fun _ => .bind fun _ => .bind fun _ => .bind fun _ => nonempty_undeclared _ rfl

theorem extension_undeclared : Undeclared extension := by
  refine .bind fun t => ?_
  split
  · split
    · next hrule => exact extensionOf?_undeclared hrule
    · exact fun ts d rest h => nomatch h
  · exact fun ts d rest h => nomatch h

/-! ## Documents -/

/-- a definition and tokens of it, if it is declared -/
def IfDeclared (d : Definition String) (ts : List Token) : Prop := d.isDeclared = true → DecoratedDefinition d ts

theorem Undeclared.takes {p : Parser (Definition String)} {P : Definition String → Prop} (h : Undeclared p)
    (hp : Yields (fun _ => True) p P) : Takes p IfDeclared := by
  intro ts d rest hd
  obtain ⟨⟨us, hus⟩, _⟩ := hp ts d rest (fun _ _ => trivial) hd
  refine ⟨us, hus.symm, fun hdeclared => ?_⟩
  rw [h ts d rest hd] at hdeclared
  cases hdeclared

theorem definitionOf?_takes {k : String} {rule : Parser (Definition String)} (h : definitionOf? k = some rule) :
    Takes rule IfDeclared := by
  have hdeclared : ∀ {p : Parser (Definition String)}, Takes p DecoratedDefinition → Takes p IfDeclared :=
    fun hp => hp.mono fun _ _ hd _ => hd
  unfold definitionOf? at h
  split at h
  all_goals cases h
  · exact schema_undeclared.takes schema_yields
  · exact scalar_undeclared.takes scalar_yields
  · exact hdeclared (record_takes _)
  · exact hdeclared (record_takes _)
  · exact union_undeclared.takes union_yields
  · exact hdeclared enum_takes
  · exact hdeclared (record_takes _)
  · exact directiveDefinition_undeclared.takes directiveDefinition_yields
  · exact (operation_undeclared _).takes (operation_yields _)
  · exact (operation_undeclared _).takes (operation_yields _)
  · exact (operation_undeclared _).takes (operation_yields _)
  · exact fragment_undeclared.takes fragment_yields

theorem describedDefinition_takes : Takes describedDefinition IfDeclared := by
  refine following_takes.bind fun t us hus => ?_
  subst hus
  split
  · exact refuse_takes _
  · split
    · next hrule => exact definitionOf?_takes hrule
    · exact refuse_takes _
  · exact unexpectedNext_takes _

/-- **A definition that has a declaration is made of its decorated tokens**, whatever follows them. -/
theorem definition_takes : Takes definition IfDeclared := by
  refine takes_current_bind fun t => Takes.at t ?_
  split
  · exact shorthandOperation_undeclared.takes shorthandOperation_yields
  · exact describedDefinition_takes
  · exact describedDefinition_takes
  · split
    · next hrule => exact definitionOf?_takes hrule
    · exact .ite (fun _ => extension_undeclared.takes extension_yields) fun _ => unexpected_takes
  · exact unexpected_takes

end SchemaTypings.Sdl.Parser

namespace SchemaTypings.Sdl

open SchemaTypings.Schema SchemaTypings.Sdl.Parser

theorem isDeclared_of_decorates {levels : Nat} {d : Definition String} {ts : List Token}
    (h : DecoratesDefinition levels d ts) : d.isDeclared = true := by
  cases h with
  | record _ _ _ _ _ => rfl
  | enum _ _ _ => rfl

/-- **The grammar of declared definitions.** Tokens are read as definitions that all have declarations exactly if they
are these definitions, decorated, one after the other: at least one, well formed and within the limit on lists. -/
theorem document_iff {ts : List Token} {ds : List (Definition String)} :
    (document ts = .ok ds ∧ ∀ d ∈ ds, d.isDeclared = true) ↔
      ds ≠ [] ∧ (∀ d ∈ ds, d.WellFormed (fun _ => True) ∧ ∀ t ∈ d.types, t.lists ≤ levelLimit) ∧
        ∃ tss, List.Forall₂ (DecoratesDefinition levelLimit) ds tss ∧ ts = tss.flatten := by
  constructor
  · rintro ⟨hread, hdeclared⟩
    obtain ⟨hne, hwf⟩ := wellFormed_of_document (fun _ _ => trivial) hread
    have hread' : upToEnd definition ts = .ok ds := by
      unfold document at hread
      split at hread
      · cases hread
      · cases hread
      · next hs => rwa [sound_eq_ok hs] at hread
    obtain ⟨tss, htss, rfl⟩ := upToEnd_takes definition_takes hread'
    have hdecorated : List.Forall₂ DecoratedDefinition ds tss := by
      have hboth := (List.forall₂_and_left _ _).2 ⟨hdeclared, htss⟩
      exact hboth.imp fun d us h => h.2 h.1
    obtain ⟨hlists, hdecorates⟩ := (List.forall₂_and_left _ _).1 hdecorated
    exact ⟨hne, fun d hd => ⟨hwf d hd, hlists d hd⟩, tss, hdecorates, rfl⟩
  · rintro ⟨hne, hd, tss, htss, rfl⟩
    refine ⟨document_decorated hne htss hd, ?_⟩
    have hall : List.Forall₂ (fun d us => d.isDeclared = true ∧ True) ds tss :=
      htss.imp fun d us h => ⟨isDeclared_of_decorates h, trivial⟩
    exact ((List.forall₂_and_left _ _).1 hall).1

/-- **Documents one after the other are a document** of all their definitions, if these have declarations. -/
theorem document_append {ts us : List Token} {ds es : List (Definition String)} (hts : document ts = .ok ds)
    (hds : ∀ d ∈ ds, d.isDeclared = true) (hus : document us = .ok es) (hes : ∀ d ∈ es, d.isDeclared = true) :
    document (ts ++ us) = .ok (ds ++ es) := by
  obtain ⟨hne, hd, tss, htss, rfl⟩ := document_iff.1 ⟨hts, hds⟩
  obtain ⟨_, he, uss, huss, rfl⟩ := document_iff.1 ⟨hus, hes⟩
  have hall := List.forall_mem_append.2 ⟨hd, he⟩
  rw [← List.flatten_append]
  exact (document_iff.2 ⟨by simp [hne], hall, tss ++ uss, List.rel_append htss huss, rfl⟩).1

end SchemaTypings.Sdl
