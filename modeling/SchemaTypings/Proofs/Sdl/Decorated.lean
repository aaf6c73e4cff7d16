/-
Definitions with parts that no declaration depends on.

Descriptions, lists of interfaces, default values and directives may stand at many places of a definition.
`DecoratesDefinition` says which tokens are a definition with any of them, as the grammar allows: constant values are
lists and objects around each other up to a number of levels (`IsConstant`). Each rule passes exactly over such a part
(`constant_tokens`, `directives_tokens`, `interfacesOf_tokens`), so that decorated definitions are read as the
definitions alone (`document_decorated`); a definition without any such part is the plainest case
(`document_definitionTokens`).
-/
import SchemaTypings.Proofs.Sdl.Reread

namespace SchemaTypings.Sdl

open SchemaTypings.Schema SchemaTypings.Sdl.Parser

/-! ## Parts -/

/-- a named value, as in objects and arguments -/
def entryTokens (e : String × List Token) : List Token := .name e.1 :: .punct .colon :: e.2

/-- constant values with at most `levels` lists and objects around each other -/
inductive IsConstant : Nat → List Token → Prop where
  | int {levels : Nat} (n : String) : IsConstant levels [.int n]
  | float {levels : Nat} (n : String) : IsConstant levels [.float n]
  | string {levels : Nat} (v : String) : IsConstant levels [.string v]
  | block {levels : Nat} (v : String) : IsConstant levels [.block v]
  | name {levels : Nat} (n : String) : IsConstant levels [.name n]
  | list {levels : Nat} {items : List (List Token)} : (∀ ts ∈ items, IsConstant levels ts) →
      IsConstant (levels + 1) (.punct .bracketOpen :: (items.flatten ++ [.punct .bracketClose]))
  | object {levels : Nat} {entries : List (String × List Token)} : (∀ e ∈ entries, IsConstant levels e.2) →
      IsConstant (levels + 1) (.punct .braceOpen :: ((entries.map entryTokens).flatten ++ [.punct .braceClose]))

/-- directives with constant arguments: a name, and arguments in parentheses if there are any -/
inductive IsDirective (levels : Nat) : List Token → Prop where
  | mk (n : String) {entries : List (String × List Token)} : (∀ e ∈ entries, IsConstant levels e.2) →
      IsDirective levels
        (.punct .atSign :: .name n :: optionalTokens .parenOpen .parenClose (entries.map entryTokens))

/-- any number of directives -/
def IsDirectives (levels : Nat) (ts : List Token) : Prop :=
  ∃ tss : List (List Token), (∀ us ∈ tss, IsDirective levels us) ∧ ts = tss.flatten

def IsDescription (ts : List Token) : Prop := ts = [] ∨ ∃ v, ts = [.string v] ∨ ts = [.block v]

def IsDefault (levels : Nat) (ts : List Token) : Prop :=
  ts = [] ∨ ∃ us, IsConstant levels us ∧ ts = .punct .equal :: us

/-- a list of interfaces, if there is one; an ampersand may stand before the first name too -/
inductive IsInterfaces : List Token → Prop where
  | none : IsInterfaces []
  | some {lead : List Token} (n : String) (ns : List String) : (lead = [] ∨ lead = [.punct .ampersand]) →
      IsInterfaces
        (.name "implements" :: (lead ++ .name n :: (ns.map fun n => [.punct .ampersand, .name n]).flatten))

/-! ## Decorated definitions -/

inductive DecoratesArgument (levels : Nat) : Argument String → List Token → Prop where
  | mk {a : Argument String} {description default directives : List Token} : IsDescription description →
      IsDefault levels default → IsDirectives levels directives →
      DecoratesArgument levels a (description ++ (argumentTokens a ++ (default ++ directives)))

inductive DecoratesMember (levels : Nat) : Member String → List Token → Prop where
  | field {n : String} {t : TypeRef String} {args : List (Argument String)} {description directives : List Token}
      {tss : List (List Token)} : IsDescription description → List.Forall₂ (DecoratesArgument levels) args tss →
      IsDirectives levels directives →
      DecoratesMember levels (.field n t args)
        (description ++ .name n :: (optionalTokens .parenOpen .parenClose tss ++
          .punct .colon :: (typeTokens t ++ directives)))
  | input {n : String} {t : TypeRef String} {ts : List Token} : DecoratesArgument levels ⟨n, t⟩ ts →
      DecoratesMember levels (.input n t) ts

inductive DecoratesValue (levels : Nat) : String → List Token → Prop where
  | mk {v : String} {description directives : List Token} : IsDescription description →
      IsDirectives levels directives → DecoratesValue levels v (description ++ .name v :: directives)

/-- tokens of a definition with descriptions, interfaces, directives and default values wherever they may stand; input
objects have no interfaces -/
inductive DecoratesDefinition (levels : Nat) : Definition String → List Token → Prop where
  | record {k : RecordKind} {n : String} {ms : List (Member String)} {description interfaces directives : List Token}
      {tss : List (List Token)} : IsDescription description → IsInterfaces interfaces →
      (k = .inputObject → interfaces = []) → IsDirectives levels directives →
      List.Forall₂ (DecoratesMember levels) ms tss →
      DecoratesDefinition levels (.record k n ms)
        (description ++ .name (recordKeyword k) :: .name n ::
          (interfaces ++ (directives ++ optionalTokens .braceOpen .braceClose tss)))
  | enum {n : String} {vs : List String} {description directives : List Token} {tss : List (List Token)} :
      IsDescription description → IsDirectives levels directives → List.Forall₂ (DecoratesValue levels) vs tss →
      DecoratesDefinition levels (.enum n vs)
        (description ++ .name "enum" :: .name n :: (directives ++ optionalTokens .braceOpen .braceClose tss))

variable {levels : Nat} {ts rest : List Token}

/-! ## What parts start with -/

theorem IsConstant.starts (h : IsConstant levels ts) :
    ∃ t us, ts = t :: us ∧ t ≠ .punct .bracketClose ∧ ∀ vs, sound (t :: vs) = .ok (t :: vs) := by
  cases h with
  | int n => exact ⟨_, _, rfl, by simp, fun _ => rfl⟩
  | float n => exact ⟨_, _, rfl, by simp, fun _ => rfl⟩
  | string v => exact ⟨_, _, rfl, by simp, fun _ => rfl⟩
  | block v => exact ⟨_, _, rfl, by simp, fun _ => rfl⟩
  | name n => exact ⟨_, _, rfl, by simp, fun _ => rfl⟩
  | list _ => exact ⟨_, _, rfl, by simp, fun _ => rfl⟩
  | object _ => exact ⟨_, _, rfl, by simp, fun _ => rfl⟩

theorem IsConstant.sound_append (h : IsConstant levels ts) (us : List Token) : sound (ts ++ us) = .ok (ts ++ us) := by
  obtain ⟨t, vs, rfl, _, hsound⟩ := h.starts
  exact hsound _

theorem IsDirective.starts (h : IsDirective levels ts) : ∃ us, ts = .punct .atSign :: us := by
  cases h with
  | mk n _ => exact ⟨_, rfl⟩

theorem IsDirectives.starts (h : IsDirectives levels ts) : ts = [] ∨ ts.head? = some (.punct .atSign) := by
  obtain ⟨tss, htss, rfl⟩ := h
  cases tss with
  | nil => exact .inl rfl
  | cons us tss =>
    obtain ⟨vs, rfl⟩ := (htss us List.mem_cons_self).starts
    exact .inr rfl

theorem IsDefault.starts (h : IsDefault levels ts) : ts = [] ∨ ts.head? = some (.punct .equal) := by
  rcases h with rfl | ⟨us, _, rfl⟩
  · exact .inl rfl
  · exact .inr rfl

theorem IsInterfaces.sound_append (h : IsInterfaces ts) (hrest : sound rest = .ok rest) :
    sound (ts ++ rest) = .ok (ts ++ rest) := by
  cases h with
  | none => exact hrest
  | some n ns _ => rfl

/-- tokens that start with a name, or with a description and a name -/
def IsDescribed (ts : List Token) : Prop :=
  ∃ description n us, IsDescription description ∧ ts = description ++ .name n :: us

theorem IsDescribed.starts (h : IsDescribed ts) :
    ∃ t us, ts = t :: us ∧ isStop (t :: us) = true ∧ ∀ p, t ≠ .punct p := by
  obtain ⟨description, n, us, rfl | ⟨v, rfl | rfl⟩, rfl⟩ := h
  · exact ⟨_, _, rfl, rfl, by simp⟩
  · exact ⟨_, _, rfl, rfl, by simp⟩
  · exact ⟨_, _, rfl, rfl, by simp⟩

theorem IsDescribed.isStop_append (h : IsDescribed ts) (us : List Token) : isStop (ts ++ us) = true := by
  obtain ⟨description, n, vs, rfl | ⟨v, rfl | rfl⟩, rfl⟩ := h
  · rfl
  · rfl
  · rfl

theorem DecoratesArgument.isDescribed {a : Argument String} (h : DecoratesArgument levels a ts) : IsDescribed ts := by
  cases h with
  | mk hdescription _ _ => exact ⟨_, _, _, hdescription, rfl⟩

theorem DecoratesMember.isDescribed {m : Member String} (h : DecoratesMember levels m ts) : IsDescribed ts := by
  cases h with
  | field hdescription _ _ => exact ⟨_, _, _, hdescription, rfl⟩
  | input h => exact h.isDescribed

theorem DecoratesValue.isDescribed {v : String} (h : DecoratesValue levels v ts) : IsDescribed ts := by
  cases h with
  | mk hdescription _ => exact ⟨_, _, _, hdescription, rfl⟩

/-- whether a definition ends here: no part of it goes on, interfaces least of all -/
def EndsDefinition (ts : List Token) : Prop := isStop ts = true ∧ ts.head? ≠ some (.name "implements")

/-- what a definition starts with ends the one before it -/
theorem DecoratesDefinition.ends {d : Definition String} (h : DecoratesDefinition levels d ts) (us : List Token) :
    EndsDefinition (ts ++ us) := by
  have hkeyword : ∀ {description : List Token} {k : String} {vs : List Token}, IsDescription description →
      k ≠ "implements" → EndsDefinition (description ++ .name k :: vs ++ us) := by
    intro description k vs hdescription hk
    refine ⟨IsDescribed.isStop_append ⟨_, _, _, hdescription, rfl⟩ us, ?_⟩
    rcases hdescription with rfl | ⟨v, rfl | rfl⟩
    · simpa using hk
    · simp
    · simp
  cases h with
  | @record k _ _ _ _ _ _ hdescription _ _ _ _ => exact hkeyword hdescription (by cases k <;> decide)
  | enum hdescription _ _ => exact hkeyword hdescription (by decide)

theorem DecoratesDefinition.isDescribed {d : Definition String} (h : DecoratesDefinition levels d ts) :
    IsDescribed ts := by
  cases h with
  | record hdescription _ _ _ _ => exact ⟨_, _, _, hdescription, rfl⟩
  | enum hdescription _ _ => exact ⟨_, _, _, hdescription, rfl⟩

variable {N : String → Prop}

namespace Parser

/-! ## Constant values -/

/-- items that make nothing, with tokens for each -/
theorem forall₂_units {R : Unit → List Token → Prop} {tss : List (List Token)} (h : ∀ ts ∈ tss, R () ts) :
    List.Forall₂ R (tss.map fun _ => ()) tss :=
  List.forall₂_map_left_iff.2 (List.forall₂_same.2 h)

/-- a rule for named values reads them wherever sound tokens follow, if it so reads the values -/
theorem forall₂_entries {item : Parser Unit} (close : Punct) {entries : List (String × List Token)}
    (hc : ∀ e ∈ entries, IsConstant levels e.2)
    (hitem : ∀ e ∈ entries, ∀ us, sound us = .ok us → item (e.2 ++ us) = .ok ((), us)) :
    List.Forall₂ (IsItem (do let _ ← name; expect .colon; item) (· ≠ .punct close) fun us => sound us = .ok us)
      ((entries.map entryTokens).map fun _ => ()) (entries.map entryTokens) := by
  refine forall₂_units (List.forall_mem_map.2 fun e he => ⟨fun us hus => ?_, ⟨_, _, rfl, by simp⟩, fun _ => rfl⟩)
  exact step (name_cons rfl) (step (expect_cons ((hc e he).sound_append us)) (hitem e he us hus))

/-- **A constant value is passed over**, whatever follows it. -/
theorem constant_tokens (h : IsConstant levels ts) (hrest : sound rest = .ok rest) :
    value true levels (ts ++ rest) = .ok ((), rest) := by
  induction h generalizing rest with
  | @int levels n => cases levels <;> exact step (current_eq _) (advance_cons hrest)
  | @float levels n => cases levels <;> exact step (current_eq _) (advance_cons hrest)
  | @string levels v => cases levels <;> exact step (current_eq _) (advance_cons hrest)
  | @block levels v => cases levels <;> exact step (current_eq _) (advance_cons hrest)
  | @name levels n => cases levels <;> exact step (current_eq _) (advance_cons hrest)
  | @list levels items hc ih =>
    have hitems : List.Forall₂ (IsItem (value true levels) (· ≠ .punct .bracketClose) fun us => sound us = .ok us)
        (items.map fun _ => ()) items := by
      refine forall₂_units fun ts hts => ⟨fun us hus => ih ts hts hus, ?_, (hc ts hts).sound_append⟩
      obtain ⟨t, us, rfl, hne, _⟩ := (hc ts hts).starts
      exact ⟨t, us, rfl, hne⟩
    rw [List.cons_append, List.append_assoc, List.singleton_append]
    refine step (current_eq _) (step (isAt_eq _ _) ?_)
    exact step (between_items (fun _ h => h) hrest rfl hitems) (run_pure _ _)
  | @object levels entries hc ih =>
    have hentries := forall₂_entries .braceClose hc fun e he us hus => ih e he hus
    rw [List.cons_append, List.append_assoc, List.singleton_append]
    refine step (current_eq _) (step (isAt_eq _ _) ?_)
    exact step (between_items (fun _ h => h) hrest rfl hentries) (run_pure _ _)

/-! ## Directives -/

theorem arguments_tokens {entries : List (String × List Token)} (hc : ∀ e ∈ entries, IsConstant levels e.2)
    (hrest : sound rest = .ok rest) (hopening : rest.head? ≠ some (.punct .parenOpen)) :
    arguments true levels (optionalTokens .parenOpen .parenClose (entries.map entryTokens) ++ rest) =
      .ok ((), rest) := by
  have hentries := forall₂_entries .parenClose hc fun e he us hus => constant_tokens (hc e he) hus
  exact step (optionalBetween_items (fun _ h => h) hrest hopening rfl hentries) (run_pure _ _)

theorem directive_tokens (h : IsDirective levels ts) (hrest : Follows [.atSign, .braceOpen] rest) :
    directive true levels (ts ++ rest) = .ok ((), rest) := by
  cases h with
  | @mk n entries hc =>
    have hafter := Follows.part (optionalTokens_starts .parenOpen .parenClose (entries.map entryTokens)) hrest
    refine step (expect_cons rfl) (step (name_cons hafter.sound) ?_)
    exact arguments_tokens hc hrest.sound (hrest.head?_ne (by decide) rfl)

/-- **Directives are passed over**, up to a stop or an opening brace. -/
theorem directives_tokens (h : IsDirectives levels ts) (hrest : Follows [.braceOpen] rest) :
    ∃ any, directives true levels (ts ++ rest) = .ok (any, rest) := by
  obtain ⟨tss, htss, rfl⟩ := h
  have hitems : List.Forall₂ (IsItem (directive true levels) (· = .punct .atSign) (Follows [.atSign, .braceOpen]))
      (tss.map fun _ => ()) tss := by
    refine forall₂_units fun us hus => ⟨fun vs hvs => directive_tokens (htss us hus) hvs, ?_, fun vs => ?_⟩
    · obtain ⟨vs, rfl⟩ := (htss us hus).starts
      exact ⟨_, _, rfl, rfl⟩
    · obtain ⟨ws, rfl⟩ := (htss us hus).starts
      exact .inr ⟨.atSign, by simp, rfl⟩
  have hfollows : Follows [.atSign, .braceOpen] ([] ++ rest) := Follows.part (.inl rfl) hrest
  exact ⟨_, step (whileAt_items hfollows (hrest.head?_ne (by decide) rfl) hitems) (run_pure _ _)⟩

/-! ## Descriptions, default values and interfaces -/

theorem description_tokens (h : IsDescription ts) (n : String) (us : List Token) :
    description (ts ++ .name n :: us) = .ok ((), .name n :: us) := by
  rcases h with rfl | ⟨v, rfl | rfl⟩
  · rfl
  · rfl
  · rfl

theorem defaultValue_tokens (h : IsDefault levelLimit ts) (hrest : Follows [.atSign] rest) :
    defaultValue (ts ++ rest) = .ok ((), rest) := by
  rcases h with rfl | ⟨us, hus, rfl⟩
  · exact defaultValue_of_ne (hrest.head?_ne (by decide) rfl)
  · exact step (accept_cons (hus.sound_append rest)) (constant_tokens hus hrest.sound)

theorem interfacesOf_of_ne (k : RecordKind) (h : ts.head? ≠ some (.name "implements")) :
    interfacesOf k ts = .ok (false, ts) := by
  have hnone : interfaces ts = .ok (false, ts) := step (acceptKeyword_of_ne h) (run_pure _ _)
  cases k with
  | object => exact hnone
  | interface => exact hnone
  | inputObject => exact run_pure _ _

theorem separated_names {lead : List Token} (hlead : lead = [] ∨ lead = [.punct .ampersand]) (n : String)
    (ns : List String) (hrest : sound rest = .ok rest) (hamp : rest.head? ≠ some (.punct .ampersand)) :
    separated .ampersand name (lead ++ .name n :: ((ns.map fun n => [.punct .ampersand, .name n]).flatten ++ rest)) =
      .ok (n :: ns, rest) := by
  have hitems : List.Forall₂ (IsItem (do advance; name) (· = .punct .ampersand) fun us => sound us = .ok us)
      ns (ns.map fun n => [.punct .ampersand, .name n]) := by
    refine List.forall₂_map_right_iff.2 (List.forall₂_same.2 fun n _ => ⟨fun us hus => ?_, ⟨_, _, rfl, rfl⟩, ?_⟩)
    · exact step (advance_cons rfl) (name_cons hus)
    · exact fun _ => rfl
  have hnames : (do let a ← name; let as ← whileAt .ampersand (do advance; name); return a :: as : Parser (List String))
      (.name n :: ((ns.map fun n => [.punct .ampersand, .name n]).flatten ++ rest)) = .ok (n :: ns, rest) :=
    step (name_cons (follows_flatten hrest hitems)) (step (whileAt_items hrest hamp hitems) (run_pure _ _))
  rcases hlead with rfl | rfl
  · exact step (accept_of_ne (by simp)) hnames
  · exact step (accept_cons rfl) hnames

/-- **Interfaces are passed over**, if what follows neither goes on with them nor starts them. -/
theorem interfacesOf_tokens {k : RecordKind} (h : IsInterfaces ts) (hk : k = .inputObject → ts = [])
    (hrest : sound rest = .ok rest) (hamp : rest.head? ≠ some (.punct .ampersand))
    (hname : rest.head? ≠ some (.name "implements")) : ∃ any, interfacesOf k (ts ++ rest) = .ok (any, rest) := by
  cases h with
  | none => exact ⟨_, interfacesOf_of_ne k hname⟩
  | @some lead n ns hlead =>
    have hsound : ∀ us, sound (lead ++ .name n :: us) = .ok (lead ++ .name n :: us) := by
      intro us
      rcases hlead with rfl | rfl
      · rfl
      · rfl
    have hread : interfaces (.name "implements" ::
        (lead ++ .name n :: (ns.map fun n => [.punct .ampersand, .name n]).flatten) ++ rest) = .ok (true, rest) := by
      rw [List.cons_append, List.append_assoc, List.cons_append]
      refine step (acceptKeyword_cons (hsound _)) ?_
      exact step (separated_names hlead n ns hrest hamp) (run_pure _ _)
    cases k with
    | object => exact ⟨_, hread⟩
    | interface => exact ⟨_, hread⟩
    | inputObject => exact absurd (hk rfl) (by simp)

/-! ## Arguments and members -/

theorem inputValue_tokens {a : Argument String} (h : DecoratesArgument levelLimit a ts) (ha : a.WellFormed N)
    (hl : a.type.lists ≤ levelLimit) (hrest : isStop rest = true) : inputValue (ts ++ rest) = .ok (a, rest) := by
  cases h with
  | @mk description default directives hdescription hdefault hdirectives =>
    have hafter : Follows [.atSign] (directives ++ rest) := Follows.part hdirectives.starts (.stop hrest)
    have hbehind : Follows [.equal, .atSign] (default ++ (directives ++ rest)) := Follows.part hdefault.starts hafter
    obtain ⟨any, hread⟩ := directives_tokens hdirectives (Follows.stop hrest)
    simp only [argumentTokens, List.cons_append, List.append_assoc]
    refine step (description_tokens hdescription _ _) (step (name_cons rfl) ?_)
    refine step (expect_cons (sound_typeTokens _ _)) ?_
    refine step (typeRef_tokens ha.2 hl hbehind.sound (hbehind.head?_ne (by decide) rfl)).1 ?_
    exact step (defaultValue_tokens hdefault hafter) (step hread (run_pure _ _))

/-- a described part is an item of a list in parentheses or braces -/
theorem isItem_described {α : Type} {item : Parser α} {close : Punct} {a : α} (h : IsDescribed ts)
    (hread : ∀ us, isStop us = true → item (ts ++ us) = .ok (a, us)) :
    IsItem item (· ≠ .punct close) (isStop · = true) a ts := by
  obtain ⟨t, us, hts, _, ht⟩ := h.starts
  exact ⟨hread, ⟨t, us, hts, ht close⟩, h.isStop_append⟩

theorem field_tokens {n : String} {t : TypeRef String} {args : List (Argument String)}
    (h : DecoratesMember levelLimit (.field n t args) ts) (ht : t.WellFormed N) (hargs : ∀ a ∈ args, a.WellFormed N)
    (hl : ∀ u ∈ (Member.field n t args).types, u.lists ≤ levelLimit) (hrest : isStop rest = true) :
    field (ts ++ rest) = .ok (.field n t args, rest) := by
  cases h with
  | @field _ _ _ description directives tss hdescription htss hdirectives =>
    have hafter : Follows [.atSign] (directives ++ rest) := Follows.part hdirectives.starts (.stop hrest)
    obtain ⟨any, hread⟩ := directives_tokens hdirectives (Follows.stop hrest)
    have hitems : List.Forall₂ (IsItem inputValue (· ≠ .punct .parenClose) (isStop · = true)) args tss := by
      have hboth := (List.forall₂_and_left _ _).2 ⟨fun a (ha : a ∈ args) => ha, htss⟩
      refine hboth.imp fun a us ha => isItem_described ha.2.isDescribed fun vs hvs => ?_
      exact inputValue_tokens ha.2 (hargs a ha.1) (hl _ (List.mem_cons_of_mem _ (List.mem_map_of_mem ha.1))) hvs
    have hcolon : Follows [.parenOpen, .colon] (optionalTokens .parenOpen .parenClose tss ++
        .punct .colon :: (typeTokens t ++ (directives ++ rest))) :=
      Follows.part (optionalTokens_starts _ _ _) (.inr ⟨.colon, List.mem_singleton_self _, rfl⟩)
    simp only [List.cons_append, List.append_assoc]
    refine step (description_tokens hdescription _ _) (step (name_cons hcolon.sound) ?_)
    refine step (optionalBetween_items (fun _ h => sound_of_isStop h) rfl (by simp) rfl hitems) ?_
    refine step (expect_cons (sound_typeTokens _ _)) ?_
    refine step (typeRef_tokens ht (hl t List.mem_cons_self) hafter.sound (hafter.head?_ne (by decide) rfl)).1 ?_
    exact step hread (run_pure _ _)

/-- a rule for members of a record of the kind -/
theorem members_eq (k : RecordKind) :
    members k = optionalBetween .braceOpen .braceClose (if k = .inputObject then inputField else field) := by
  cases k <;> rfl

theorem member_tokens {k : RecordKind} {m : Member String} (h : DecoratesMember levelLimit m ts)
    (hm : m.WellFormed N k) (hl : ∀ t ∈ m.types, t.lists ≤ levelLimit) (hrest : isStop rest = true) :
    (if k = .inputObject then inputField else field) (ts ++ rest) = .ok (m, rest) := by
  cases m with
  | field n t args =>
    rw [if_neg hm.1]
    exact field_tokens h hm.2.2.1 hm.2.2.2 hl hrest
  | input n t =>
    rw [if_pos hm.1]
    cases h with
    | input h =>
      exact step (inputValue_tokens h hm.2 (hl t List.mem_cons_self) hrest) (run_pure _ _)

theorem enumValue_tokens {v : String} (h : DecoratesValue levelLimit v ts) (hv : v ∉ reservedValues)
    (hrest : isStop rest = true) : enumValue (ts ++ rest) = .ok (v, rest) := by
  have hr : isReserved (some (.name v)) = false := by
    simp only [reservedValues, List.mem_cons, List.not_mem_nil, or_false, not_or] at hv
    simp [isReserved, hv]
  cases h with
  | @mk description directives hdescription hdirectives =>
    have hafter : Follows [.atSign] (directives ++ rest) := Follows.part hdirectives.starts (.stop hrest)
    obtain ⟨any, hread⟩ := directives_tokens hdirectives (Follows.stop hrest)
    rw [List.append_assoc, List.cons_append]
    refine step (description_tokens hdescription _ _) (step (current_eq _) ?_)
    dsimp only
    rw [List.head?_cons, if_neg (by simp [hr])]
    exact step (name_cons hafter.sound) (step hread (run_pure _ _))

/-! ## Definitions -/

/-- a part that starts with a punctuator, if it is there, is no name -/
theorem head?_ne_name {p : Punct} {us : List Token} {n : String} (hus : us = [] ∨ us.head? = some (.punct p))
    (hrest : rest.head? ≠ some (.name n)) : (us ++ rest).head? ≠ some (.name n) := by
  rcases hus with rfl | hhead
  · exact hrest
  · rw [List.head?_append, hhead]
    simp

theorem record_tokens {k : RecordKind} {n : String} {ms : List (Member String)}
    (h : DecoratesDefinition levelLimit (.record k n ms) ts) (hms : ∀ m ∈ ms, m.WellFormed N k)
    (hl : ∀ t ∈ (Definition.record k n ms).types, t.lists ≤ levelLimit) (hrest : EndsDefinition rest) :
    record k (ts ++ rest) = .ok (.record k n ms, rest) := by
  cases h with
  | @record _ _ _ description interfaces directives tss hdescription hinterfaces hinput hdirectives htss =>
    have hbraces := optionalTokens_starts .braceOpen .braceClose tss
    have hstop : Follows [] rest := .stop hrest.1
    have hafter : Follows [.braceOpen] (optionalTokens .braceOpen .braceClose tss ++ rest) := Follows.part hbraces hstop
    have hbehind : Follows [.atSign, .braceOpen] (directives ++ (optionalTokens .braceOpen .braceClose tss ++ rest)) :=
      Follows.part hdirectives.starts hafter
    have hitems : List.Forall₂ (IsItem (if k = .inputObject then inputField else field) (· ≠ .punct .braceClose)
        (isStop · = true)) ms tss := by
      have hboth := (List.forall₂_and_left _ _).2 ⟨fun m (hm : m ∈ ms) => hm, htss⟩
      refine hboth.imp fun m us hm => isItem_described hm.2.isDescribed fun vs hvs => ?_
      exact member_tokens hm.2 (hms m hm.1) (fun t ht => hl t (List.mem_flatMap.2 ⟨m, hm.1, ht⟩)) hvs
    have hmembers : members k (optionalTokens .braceOpen .braceClose tss ++ rest) = .ok (ms, rest) := by
      rw [members_eq]
      exact optionalBetween_items (fun _ h => sound_of_isStop h) hstop.sound (hstop.head?_ne (by simp) rfl) rfl hitems
    obtain ⟨any, hread⟩ := directives_tokens hdirectives hafter
    obtain ⟨anyInterface, hnames⟩ := interfacesOf_tokens hinterfaces hinput hbehind.sound
      (hbehind.head?_ne (by decide) rfl) (head?_ne_name hdirectives.starts (head?_ne_name hbraces hrest.2))
    simp only [List.cons_append, List.append_assoc]
    refine step (description_tokens hdescription _ _) (step (keyword_cons rfl) ?_)
    refine step (name_cons (hinterfaces.sound_append hbehind.sound)) ?_
    exact step hnames (step hread (step hmembers (run_pure _ _)))

theorem enum_tokens {n : String} {vs : List String} (h : DecoratesDefinition levelLimit (.enum n vs) ts)
    (hvs : ∀ v ∈ vs, v ∉ reservedValues) (hrest : EndsDefinition rest) :
    enum (ts ++ rest) = .ok (.enum n vs, rest) := by
  cases h with
  | @enum _ _ description directives tss hdescription hdirectives htss =>
    have hstop : Follows [] rest := .stop hrest.1
    have hafter : Follows [.braceOpen] (optionalTokens .braceOpen .braceClose tss ++ rest) :=
      Follows.part (optionalTokens_starts _ _ _) hstop
    have hbehind : Follows [.atSign, .braceOpen] (directives ++ (optionalTokens .braceOpen .braceClose tss ++ rest)) :=
      Follows.part hdirectives.starts hafter
    have hitems : List.Forall₂ (IsItem enumValue (· ≠ .punct .braceClose) (isStop · = true)) vs tss := by
      have hboth := (List.forall₂_and_left _ _).2 ⟨fun v (hv : v ∈ vs) => hv, htss⟩
      refine hboth.imp fun v us hv => isItem_described hv.2.isDescribed fun ws hws => ?_
      exact enumValue_tokens hv.2 (hvs v hv.1) hws
    obtain ⟨any, hread⟩ := directives_tokens hdirectives hafter
    simp only [List.cons_append, List.append_assoc]
    refine step (description_tokens hdescription _ _) (step (keyword_cons rfl) (step (name_cons hbehind.sound) ?_))
    exact step hread (step (optionalBetween_items (fun _ h => sound_of_isStop h) hstop.sound
      (hstop.head?_ne (by simp) rfl) rfl hitems) (run_pure _ _))

/-- a description does not change which rule a definition is read by -/
theorem definition_described {k : String} {rule : Parser (Definition String)} (hk : definitionOf? k = some rule)
    (h : IsDescription ts) (us : List Token) : definition (ts ++ .name k :: us) = rule (ts ++ .name k :: us) := by
  rcases h with rfl | ⟨v, rfl | rfl⟩
  · refine step (current_eq _) ?_
    simp only [List.nil_append, List.head?_cons, hk]
  · have hnext : following (.string v :: .name k :: us) = .ok (some (.name k), .string v :: .name k :: us) := rfl
    refine step (current_eq _) (step hnext ?_)
    simp only [List.cons_append, List.nil_append, hk]
  · have hnext : following (.block v :: .name k :: us) = .ok (some (.name k), .block v :: .name k :: us) := rfl
    refine step (current_eq _) (step hnext ?_)
    simp only [List.cons_append, List.nil_append, hk]

/-- a decorated definition is read by the rule that its keyword stands for -/
theorem definition_tokens {d : Definition String} (h : DecoratesDefinition levelLimit d ts) (hwf : d.WellFormed N)
    (hl : ∀ t ∈ d.types, t.lists ≤ levelLimit) (hrest : EndsDefinition rest) :
    definition (ts ++ rest) = .ok (d, rest) := by
  cases d with
  | record k n ms =>
    have hread := record_tokens h hwf.2 hl hrest
    cases h with
    | record hdescription _ _ _ _ =>
      rw [List.append_assoc, List.cons_append] at hread ⊢
      have hrule : definitionOf? (recordKeyword k) = some (record k) := by cases k <;> rfl
      rw [definition_described hrule hdescription]
      exact hread
  | enum n vs =>
    have hread := enum_tokens h (fun v hv => (hwf.2 v hv).2) hrest
    cases h with
    | enum hdescription _ _ =>
      rw [List.append_assoc, List.cons_append] at hread ⊢
      have hrule : definitionOf? "enum" = some enum := rfl
      rw [definition_described hrule hdescription]
      exact hread
  | other k n ns => cases h

/-- definitions whose types are within the limit are items of a document, whatever decorates them -/
theorem forall₂_definitions {ds : List (Definition String)} {tss : List (List Token)}
    (h : List.Forall₂ (DecoratesDefinition levelLimit) ds tss)
    (hd : ∀ d ∈ ds, d.WellFormed N ∧ ∀ t ∈ d.types, t.lists ≤ levelLimit) :
    List.Forall₂ (IsItem definition (fun _ => True) EndsDefinition) ds tss := by
  have hboth := (List.forall₂_and_left _ _).2 ⟨hd, h⟩
  refine hboth.imp fun d ts ⟨⟨hwf, hl⟩, hdecorates⟩ => ?_
  obtain ⟨t, us, hts, _, _⟩ := hdecorates.isDescribed.starts
  exact ⟨fun vs hvs => definition_tokens hdecorates hwf hl hvs, ⟨t, us, hts, trivial⟩, hdecorates.ends⟩

end Parser

/-- **Decorated definitions are read as the definitions alone.** -/
theorem document_decorated {ds : List (Definition String)} {tss : List (List Token)} (hne : ds ≠ [])
    (h : List.Forall₂ (DecoratesDefinition levelLimit) ds tss)
    (hd : ∀ d ∈ ds, d.WellFormed N ∧ ∀ t ∈ d.types, t.lists ≤ levelLimit) : document tss.flatten = .ok ds := by
  have hitems := forall₂_definitions h hd
  have hend : EndsDefinition [] := ⟨rfl, by simp⟩
  have hsound : sound tss.flatten = .ok tss.flatten := by
    have hfirst := follows_flatten hend hitems
    rw [List.append_nil] at hfirst
    exact sound_of_isStop hfirst.1
  have hread := upToEnd_items hend hitems
  rw [document, hsound]
  cases hts : tss.flatten with
  | nil =>
    rw [hts, upToEnd, if_pos rfl] at hread
    exact absurd (Except.ok.inj hread).symm hne
  | cons t ts =>
    rw [hts] at hread
    exact hread

/-! ## Definitions alone -/

@[simp]
theorem isDescription_nil : IsDescription [] := .inl rfl

@[simp]
theorem isDirectives_nil : IsDirectives levels [] := ⟨[], by simp, rfl⟩

theorem decoratesArgument_tokens (levels : Nat) (a : Argument String) :
    DecoratesArgument levels a (argumentTokens a) := by
  have hnone : IsDirectives levels [] := isDirectives_nil
  have h := DecoratesArgument.mk (a := a) isDescription_nil (.inl rfl) hnone
  simpa using h

theorem decoratesMember_tokens (levels : Nat) (m : Member String) : DecoratesMember levels m (memberTokens m) := by
  cases m with
  | field n t args =>
    have hargs : List.Forall₂ (DecoratesArgument levels) args (args.map argumentTokens) :=
      List.forall₂_map_right_iff.2 (List.forall₂_same.2 fun a _ => decoratesArgument_tokens levels a)
    have h := DecoratesMember.field (n := n) (t := t) isDescription_nil hargs isDirectives_nil
    simpa [memberTokens] using h
  | input n t => exact .input (decoratesArgument_tokens levels ⟨n, t⟩)

/-- a definition that nothing decorates -/
theorem decoratesDefinition_tokens (levels : Nat) {d : Definition String} (hd : d.isDeclared = true) :
    DecoratesDefinition levels d (definitionTokens d) := by
  cases d with
  | record k n ms =>
    have hms : List.Forall₂ (DecoratesMember levels) ms (ms.map memberTokens) :=
      List.forall₂_map_right_iff.2 (List.forall₂_same.2 fun m _ => decoratesMember_tokens levels m)
    have h := DecoratesDefinition.record (k := k) (n := n) isDescription_nil .none (fun _ => rfl) isDirectives_nil hms
    simpa [definitionTokens] using h
  | enum n vs =>
    have hvs : List.Forall₂ (DecoratesValue levels) vs (vs.map fun v => [.name v]) := by
      refine List.forall₂_map_right_iff.2 (List.forall₂_same.2 fun v _ => ?_)
      exact .mk isDescription_nil isDirectives_nil
    have h := DecoratesDefinition.enum (n := n) isDescription_nil isDirectives_nil hvs
    simpa [definitionTokens] using h
  | other k n ns => cases hd

/-- **Definitions are read back from their tokens.** -/
theorem document_definitionTokens {ds : List (Definition String)} (hne : ds ≠ [])
    (hd : ∀ d ∈ ds, d.isDeclared = true ∧ d.WellFormed N ∧ ∀ t ∈ d.types, t.lists ≤ levelLimit) :
    document (ds.flatMap definitionTokens) = .ok ds := by
  have hplain : List.Forall₂ (DecoratesDefinition levelLimit) ds (ds.map definitionTokens) :=
    List.forall₂_map_right_iff.2 (List.forall₂_same.2 fun d h => decoratesDefinition_tokens levelLimit (hd d h).1)
  exact document_decorated hne hplain fun d h => (hd d h).2

end SchemaTypings.Sdl
