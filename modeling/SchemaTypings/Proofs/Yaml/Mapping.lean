/-
The document of a written mapping.

While tokens are read, nodes are added and none is changed (`Keeps`), so that a string stays the node it became; only the
mapping around them, which was added first, is filled at the end. `document_of_entryTokens` finds every entry of the
mapping as a pair of strings (`IsTextMapping`). There is room for the mapping on every stack.
-/
import SchemaTypings.Proofs.Yaml.Scan
import SchemaTypings.Yaml.Document

namespace SchemaTypings.Yaml

open SchemaTypings.Text

/-! ## Nodes -/

/-- a string as a node -/
def textNode (ps : List Piece) : Node := ⟨.text, .scalar ps⟩

def IsText (g : Graph) (n : Nat) (ps : List Piece) : Prop := g[n]? = some (textNode ps)

/-- a pair of nodes is a key and a value, both of them strings -/
def IsTextEntry (g : Graph) (p : Nat × Nat) (e : String × Str) : Prop :=
  IsText g p.1 (pieces e.1.toList) ∧ IsText g p.2 e.2.pieces

/-- a node of a graph is a mapping of strings -/
structure IsTextMapping (g : Graph) (n : Nat) (ps : List (Nat × Nat)) (es : List (String × Str)) : Prop where
  root : g[n]? = some ⟨.mapping, .mapping [] ps⟩
  entries : List.Forall₂ (IsTextEntry g) ps es

/-- a graph has the nodes of another one -/
def Keeps (g g' : Graph) : Prop := ∀ (n : Nat) (node : Node), g[n]? = some node → g'[n]? = some node

theorem Keeps.trans {a b c : Graph} (hab : Keeps a b) (hbc : Keeps b c) : Keeps a c :=
  fun n node h => hbc n node (hab n node h)

theorem keeps_push (g : Graph) (node : Node) : Keeps g (g.push node) := by
  intro n old h
  obtain ⟨hlt, rfl⟩ := Array.getElem?_eq_some_iff.1 h
  rw [Array.getElem?_push_lt hlt]

theorem isText_push (g : Graph) (ps : List Piece) : IsText (g.push (textNode ps)) g.size ps := Array.getElem?_push_size

theorem IsText.tag {g : Graph} {n : Nat} {ps : List Piece} (h : IsText g n ps) : g.tag n = .text := by
  rw [Graph.tag, h]
  rfl

theorem IsText.content {g : Graph} {n : Nat} {ps : List Piece} (h : IsText g n ps) : g.content n = .scalar ps := by
  rw [Graph.content, h]
  rfl

/-- a mapping is filled, and the strings stay -/
theorem IsText.fill {g : Graph} {n root : Nat} {ps : List Piece} {old : Content} (h : IsText g n ps)
    (hroot : g[root]? = some ⟨.mapping, old⟩) (c : Content) : IsText (g.fill root c) n ps := by
  have hne : root ≠ n := by
    rintro rfl
    rw [h, Option.some.injEq] at hroot
    have htag : Tag.text = Tag.mapping := congrArg Node.tag hroot
    cases htag
  rw [IsText, Graph.fill, Array.getElem?_modify, if_neg hne]
  exact h

theorem getElem?_fill {g : Graph} {root : Nat} {old : Content} (hroot : g[root]? = some ⟨.mapping, old⟩) (c : Content) :
    (g.fill root c)[root]? = some ⟨.mapping, c⟩ := by
  rw [Graph.fill, Array.getElem?_modify, if_pos rfl, hroot]
  rfl

/-- entries whose keys are texts are no merges -/
theorem mappingOf_of_isText {g : Graph} {ps : List (Nat × Nat)} {es : List (String × Str)}
    (h : List.Forall₂ (IsTextEntry g) ps es) : g.mappingOf ps = .mapping [] ps := by
  have hkeys : ∀ p ∈ ps, g.tag p.1 = .text := by
    intro p hp
    obtain ⟨i, hi, rfl⟩ := List.getElem_of_mem hp
    exact (h.get hi (h.length_eq ▸ hi)).1.tag
  have hmerges : ps.filter (fun e => g.tag e.1 = .merge) = [] :=
    List.filter_eq_nil_iff.2 fun p hp => by simp [hkeys p hp]
  have hothers : ps.filter (fun e => !(decide (g.tag e.1 = .merge))) = ps :=
    List.filter_eq_self.2 fun p hp => by simp [hkeys p hp]
  simp only [Graph.mappingOf, hmerges, hothers, List.map_nil]

/-! ## Rules -/

/-- a scalar that is a string, with quotes or without -/
def IsTextScalar (plain : Bool) (ps : List Piece) : Prop := scalarTag none plain ps = .text

theorem isTextScalar_key {key : String} (h : Tag.ofPlain key.toList = .text) : IsTextScalar true (pieces key.toList) := by
  simp only [IsTextScalar, scalarTag, characters_pieces, if_true]
  exact h

theorem isTextScalar_value {plain : Bool} {value : Str} (h : Scan.LooksLikeText plain value) :
    IsTextScalar plain value.pieces := by
  cases plain with
  | false => rfl
  | true =>
    obtain ⟨s, rfl, htext⟩ := h rfl
    exact isTextScalar_key htext

/-- a rule that takes a scalar that is a string -/
def TakesTexts (item : Rule Nat) : Prop :=
  ∀ plain ps ts anchors g, IsTextScalar plain ps →
    item ⟨.scalar plain ps :: ts, anchors, g⟩ = .ok (g.size, ⟨ts, anchors, g.push (textNode ps)⟩)

theorem nodeWith_takesTexts (handles : List (String × String)) (inner? : Option Inner) (block flat : Bool) :
    TakesTexts (nodeWith handles inner? block flat) := by
  intro plain ps ts anchors g h
  have hwhole : Reading.isBrokenOff ⟨.scalar plain ps :: ts, anchors, g⟩ = false := rfl
  rw [IsTextScalar] at h
  simp [nodeWith, properties, fullTag, hwhole, content, Reading.goTo, Reading.add, h, textNode]

theorem node_takesTexts (handles : List (String × String)) (room : Nat) (block flat : Bool) :
    TakesTexts (node handles room block flat) := by
  cases room with
  | zero => exact nodeWith_takesTexts handles none block flat
  | succ room => exact nodeWith_takesTexts handles _ block flat

/-- the step for an entry -/
theorem blockEntries_cons {item : Rule Nat} (hitem : TakesTexts item) {key value : List Piece} {plain : Bool}
    (hkey : IsTextScalar true key) (hvalue : IsTextScalar plain value) (ts : List Token)
    (anchors : List (String × Nat)) (g : Graph) :
    blockEntries item ⟨.key :: .scalar true key :: .value :: .scalar plain value :: ts, anchors, g⟩ =
      (blockEntries item ⟨ts, anchors, (g.push (textNode key)).push (textNode value)⟩).map
        fun (es, r) => ((g.size, g.size + 1) :: es, r) := by
  have hkeyScalar : ∀ r : List Token,
      Reading.isAt ⟨.scalar true key :: r, anchors, g⟩ [.key, .value, .blockEnd] = false := by
    intro r
    simp [Reading.isAt]
  have hvalueScalar : Reading.isAt ⟨.scalar plain value :: ts, anchors, g.push (textNode key)⟩
      [.key, .value, .blockEnd] = false := by simp [Reading.isAt]
  rw [blockEntries]
  simp only [orEmpty, Reading.goTo, hkeyScalar, Bool.false_eq_true, if_false,
    hitem true key _ anchors g hkey, valueAfter,
    hvalueScalar, hitem plain value ts anchors _ hvalue, Array.size_push]
  rw [if_pos (by simp only [List.length_cons]; omega)]

/-- **Entries become pairs of strings.** The nodes that are there already stay as they are. -/
theorem blockEntries_of_entryTokens {item : Rule Nat} (hitem : TakesTexts item) {es : List (String × Str)}
    {ts : List Token} (h : EntryTokens es ts) (hkeys : ∀ e ∈ es, Tag.ofPlain e.1.toList = .text) (rest : List Token)
    (anchors : List (String × Nat)) (g : Graph) :
    ∃ ps g', blockEntries item ⟨ts ++ .blockEnd :: rest, anchors, g⟩ = .ok (ps, ⟨rest, anchors, g'⟩) ∧ Keeps g g' ∧
      List.Forall₂ (IsTextEntry g') ps es := by
  induction h generalizing g with
  | nil => exact ⟨[], g, by rw [List.nil_append, blockEntries]; rfl, fun n node hn => hn, .nil⟩
  | @cons key value plain es ts hplain hrest ih =>
    obtain ⟨hkey, hkeys⟩ := List.forall_mem_cons.1 hkeys
    obtain ⟨ps, g', hread, hkeeps, hps⟩ := ih hkeys ((g.push (textNode (pieces key.toList))).push (textNode value.pieces))
    have hkeyNode : IsText g' g.size (pieces key.toList) :=
      hkeeps _ _ (keeps_push _ _ _ _ (isText_push g (pieces key.toList)))
    have hvalueNode : IsText g' (g.size + 1) value.pieces := by
      have hnew := isText_push (g.push (textNode (pieces key.toList))) value.pieces
      rw [Array.size_push] at hnew
      exact hkeeps _ _ hnew
    refine ⟨(g.size, g.size + 1) :: ps, g', ?_, ?_, .cons ⟨hkeyNode, hvalueNode⟩ hps⟩
    · simp only [List.cons_append]
      rw [blockEntries_cons hitem (isTextScalar_key hkey) (isTextScalar_value hplain), hread]
      rfl
    · exact ((keeps_push _ _).trans (keeps_push _ _)).trans hkeeps

/-! ## The document -/

theorem node_blockMapping {handles : List (String × String)} {room : Nat} {ts : List Token} {ps : List (Nat × Nat)}
    {g : Graph}
    (hread : blockEntries (node handles room true true) ⟨ts, [], #[⟨.mapping, .mapping [] []⟩]⟩ = .ok (ps, ⟨[], [], g⟩)) :
    node handles (room + 1) true false ⟨.blockMapping :: ts, [], #[]⟩ =
      .ok (0, ⟨[], [], g.fill 0 (g.mappingOf ps)⟩) := by
  have hwhole : Reading.isBrokenOff ⟨.blockMapping :: ts, [], #[]⟩ = false := rfl
  have hsequence : Reading.isAt ⟨.blockMapping :: ts, [], #[]⟩ [.blockSequence] = false := by simp [Reading.isAt]
  have hmapping : Reading.isAt ⟨.blockMapping :: ts, [], #[]⟩ [.blockMapping] = true := by simp [Reading.isAt]
  simp [node, nodeWith, properties, fullTag, hwhole, hsequence, hmapping, content, Reading.goTo, Reading.add, Reading.fill, collectionTag, hread]

variable [Stack]

/-- **The document of a written mapping.** It is the mapping, and its entries are the strings that were written. -/
theorem document_of_entryTokens {es : List (String × Str)} {ts : List Token} (h : EntryTokens es ts)
    (hkeys : ∀ e ∈ es, Tag.ofPlain e.1.toList = .text) :
    ∃ g ps, document (.blockMapping :: ts ++ [.blockEnd]) = .ok (some ⟨g, 0⟩) ∧ IsTextMapping g 0 ps es := by
  obtain ⟨room, hroom⟩ := Nat.exists_eq_add_one_of_ne_zero Stack.nesting_pos.ne'
  have hitem := node_takesTexts standardHandles room true true
  obtain ⟨ps, g, hread, hkeeps, hps⟩ := blockEntries_of_entryTokens hitem h hkeys [] [] #[⟨.mapping, .mapping [] []⟩]
  have hstart : g[0]? = some ⟨.mapping, .mapping [] []⟩ := hkeeps 0 _ rfl
  have hnode := node_blockMapping hread
  rw [mappingOf_of_isText hps] at hnode
  refine ⟨g.fill 0 (.mapping [] ps), ps, ?_, getElem?_fill hstart _, ?_⟩
  · have hexplicit : isExplicit (.blockMapping :: (ts ++ [.blockEnd])) = false := rfl
    rw [document, hroom, List.cons_append, if_neg (List.cons_ne_nil _ _), hexplicit, if_neg Bool.false_ne_true]
    simp [documentOf, hnode, ending]
  · exact hps.imp fun p e he => ⟨he.1.fill hstart _, he.2.fill hstart _⟩

end SchemaTypings.Yaml
