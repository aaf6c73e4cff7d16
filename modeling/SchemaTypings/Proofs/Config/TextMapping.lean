/-
What a mapping of strings holds.

A node keeps its value once it is made. `Sound` says that the strings that are made have the right values, and `Advances`
that more of them are made; both go through the entries one by one. `ofDocument_of_isTextMapping` is then the list of
the entries, as the keys differ from one another.
-/
import SchemaTypings.Config.Yaml
import SchemaTypings.Proofs.Yaml.Mapping

namespace SchemaTypings.Config

open SchemaTypings.Text
open SchemaTypings.Yaml

/-- an entry of strings as it is made -/
def textEntry (e : String × Str) : Key × Value := (.text e.1, .ofStr e.2)

/-! ## Merges -/

theorem fill_self {g : Graph} {n : Nat} {node : Node} (h : g[n]? = some node) : g.fill n node.content = g := by
  refine Array.ext_getElem? fun i => ?_
  rw [Graph.fill, Array.getElem?_modify]
  split_ifs with hi
  · rw [← hi, h]
    rfl
  · rfl

theorem unmark_of_isText {g : Graph} {n : Nat} {ps : List Piece} (h : IsText g n ps) : g.unmark n = g := by
  refine Array.ext_getElem? fun i => ?_
  rw [Graph.unmark, Array.getElem?_modify]
  split_ifs with hi
  · rw [← hi, h]
    rfl
  · rfl

theorem foldl_unmark {g : Graph} {ps : List (Nat × Nat)} {es : List (String × Str)}
    (h : List.Forall₂ (IsTextEntry g) ps es) : ps.foldl (fun g p => g.unmark p.1) g = g := by
  induction h with
  | nil => rfl
  | cons he _ ih => rw [List.foldl_cons, unmark_of_isText he.1, ih]

theorem content_of_isTextMapping {g : Graph} {n : Nat} {ps : List (Nat × Nat)} {es : List (String × Str)}
    (h : IsTextMapping g n ps es) : g.content n = .mapping [] ps := by
  rw [Graph.content, h.root]

/-- there is nothing to merge, and no key marks a default value -/
theorem settle_of_isTextMapping [Stack] {g : Graph} {n : Nat} {ps : List (Nat × Nat)} {es : List (String × Str)}
    (h : IsTextMapping g n ps es) : g.settle n = .ok g := by
  have hfill : g.fill n (.mapping [] ps) = g := fill_self h.root
  rw [Graph.settle, Graph.settleFrom, content_of_isTextMapping h]
  simp only [List.nil_append, hfill, foldl_unmark h.entries]

/-! ## Values -/

namespace Making

theorem value?_keep {m : Making} {n : Nat} (hn : n < m.made.size) (v : Value) (k : Nat) :
    (m.keep n v).value? k = if k = n then some v else m.value? k := by
  unfold value? keep
  dsimp only
  by_cases hk : k = n
  · rw [hk, if_pos rfl, Array.getElem?_setIfInBounds_self_of_lt hn]
    rfl
  · rw [if_neg hk, Array.getElem?_setIfInBounds_ne (Ne.symm hk)]

/-- texts that are made have their values -/
structure Sound (g : Graph) (m : Making) : Prop where
  graph : m.graph = g
  size : m.made.size = g.size
  texts : ∀ n ps v, IsText g n ps → m.value? n = some v → v = .ofStr (.ofPieces ps)

/-- values are made, and those before stay -/
structure Advances (g : Graph) (m m' : Making) : Prop where
  sound : Sound g m'
  pending : m'.pending = m.pending
  made : ∀ n v, m.value? n = some v → m'.value? n = some v

theorem Advances.trans {g : Graph} {a b c : Making} (hab : Advances g a b) (hbc : Advances g b c) : Advances g a c :=
  ⟨hbc.sound, hbc.pending.trans hab.pending, fun n v h => hbc.made n v (hab.made n v h)⟩

theorem ofNode_of_isText [Stack] {g : Graph} {n : Nat} {ps : List Piece} (h : IsText g n ps) :
    ofNode g n = .ok (.ofStr (.ofPieces ps)) := by
  have htext : g.text n = .ok ps := by
    unfold Graph.text Graph.textFrom
    simp only [h.content]
  simp [ofNode, h.tag, isOfScalars, htext, ofScalar]

/-- the step for a string -/
theorem make_of_isText [Stack] {g : Graph} {m : Making} {n : Nat} {ps : List Piece} (hm : Sound g m) (h : IsText g n ps) :
    ∃ m', m.make n = .ok (.ofStr (.ofPieces ps), m') ∧ Advances g m m' ∧
      m'.value? n = some (.ofStr (.ofPieces ps)) := by
  have hn : n < m.made.size := by
    rw [hm.size]
    exact (Array.getElem?_eq_some_iff.1 h).1
  cases hv : m.value? n with
  | some v =>
    obtain rfl := hm.texts n ps v h hv
    exact ⟨m, by rw [make, hv], ⟨hm, rfl, fun _ _ hk => hk⟩, hv⟩
  | none =>
    have hkept := value?_keep hn (.ofStr (.ofPieces ps))
    refine ⟨m.keep n (.ofStr (.ofPieces ps)), ?_, ⟨⟨hm.graph, ?_, ?_⟩, rfl, ?_⟩, ?_⟩
    · simp [make, hv, hm.graph, h.tag, collection?, ofNode_of_isText h]
    · rw [← hm.size, keep, Array.size_setIfInBounds]
    · intro k qs v hk hvalue
      rw [hkept] at hvalue
      split_ifs at hvalue with hkn
      · rw [hkn] at hk
        obtain rfl : ps = qs :=
          Content.scalar.inj (congrArg Node.content (Option.some.inj (h.symm.trans hk)))
        exact (Option.some.inj hvalue).symm
      · exact hm.texts k qs v hk hvalue
    · intro k v hvalue
      have hkn : k ≠ n := by
        rintro rfl
        rw [hv] at hvalue
        cases hvalue
      rw [hkept, if_neg hkn, hvalue]
    · rw [hkept, if_pos rfl]

/-- the step for an entry of strings -/
theorem makeEntry_of_isTextEntry [Stack] {g : Graph} {m : Making} {p : Nat × Nat} {e : String × Str} (hm : Sound g m)
    (h : IsTextEntry g p e) : ∃ m', m.makeEntry p = .ok m' ∧ Advances g m m' ∧ m'.entry? p = some (textEntry e) := by
  obtain ⟨m₁, hkey, hfirst, hkeyMade⟩ := make_of_isText hm h.1
  obtain ⟨m₂, hvalue, hsecond, hvalueMade⟩ := make_of_isText hfirst.sound h.2
  rw [Str.ofPieces_characters, String.ofList_toList, Value.ofStr] at hkey hkeyMade
  rw [Str.ofPieces_pieces] at hvalue hvalueMade
  refine ⟨m₂, ?_, hfirst.trans hsecond, ?_⟩
  · simp [makeEntry, makeItem, hkey, hvalue, Value.key?]
  · simp [ entry?, hsecond.made _ _ hkeyMade, hvalueMade, Value.key?, textEntry]

theorem entry_mono {g : Graph} {m m' : Making} (h : Advances g m m') {p : Nat × Nat} {e : Key × Value}
    (he : m.entry? p = some e) : m'.entry? p = some e := by
  simp only [ entry?, Option.bind_eq_bind, Option.bind_eq_some_iff] at he ⊢
  obtain ⟨key, ⟨v, hv, hkey⟩, value, hvalue, heq⟩ := he
  exact ⟨key, ⟨v, h.made _ _ hv, hkey⟩, value, h.made _ _ hvalue, heq⟩

/-- **All entries of texts are made**, one after the other. -/
theorem foldlM_makeEntry [Stack] {g : Graph} {m : Making} {ps : List (Nat × Nat)} {es : List (String × Str)}
    (hm : Sound g m) (h : List.Forall₂ (IsTextEntry g) ps es) :
    ∃ m', ps.foldlM makeEntry m = .ok m' ∧ Advances g m m' ∧ ps.filterMap m'.entry? = es.map textEntry := by
  induction h generalizing m with
  | nil => exact ⟨m, rfl, ⟨hm, rfl, fun _ _ hk => hk⟩, rfl⟩
  | cons he _ ih =>
    obtain ⟨m₁, hmake, hfirst, hentry⟩ := makeEntry_of_isTextEntry hm he
    obtain ⟨m₂, hrest, hsecond, hentries⟩ := ih hfirst.sound
    refine ⟨m₂, ?_, hfirst.trans hsecond, ?_⟩
    · rw [List.foldlM_cons, hmake]
      exact hrest
    · rw [List.filterMap_cons_some (entry_mono hsecond hentry), hentries]
      rfl

/-- the last collection that is pending -/
theorem makePending_single [Stack] {m m' : Making} {n : Nat} (hinside : m.makeInside n = .ok m') (hpending : m'.pending = [])
    (fuel : Nat) (hm : m.pending = []) :
    makePending (fuel + 1) { m with pending := [n] } = .ok m' := by
  have hrest : makePending fuel m' = .ok m' := by
    unfold makePending
    rw [hpending]
  have hsame : { m with pending := [] } = m := by
    rw [← hm]
  unfold makePending
  simp [hsame, hinside, hrest]

end Making

/-! ## Keys -/

theorem putKey_of_notMem {es : List (Key × Value)} {key : Key} (h : ∀ e ∈ es, e.1 ≠ key) (value : Value) :
    putKey es key value = es ++ [(key, value)] := by
  induction es with
  | nil => rfl
  | cons e es ih =>
    obtain ⟨he, hrest⟩ := List.forall_mem_cons.1 h
    rw [putKey, if_neg fun hk => he hk.1, ih hrest]
    rfl

/-- entries with different keys are all kept -/
theorem foldl_putKey {es acc : List (Key × Value)} (h : ((acc ++ es).map (·.1)).Nodup) :
    es.foldl (fun es e => putKey es e.1 e.2) acc = acc ++ es := by
  induction es generalizing acc with
  | nil => exact (List.append_nil acc).symm
  | cons e es ih =>
    have hnew : ∀ d ∈ acc, d.1 ≠ e.1 := by
      intro d hd
      rw [List.map_append, List.nodup_append] at h
      exact h.2.2 d.1 (List.mem_map_of_mem hd) e.1 (List.mem_map_of_mem List.mem_cons_self)
    rw [List.foldl_cons, putKey_of_notMem hnew, ih (by simpa using h), List.append_assoc]
    rfl

/-! ## The value of the document -/

def Making.afterRoot (g : Graph) (n : Nat) : Making := (Making.start g).keep n (.other .mapping)

theorem Making.sound_afterRoot {g : Graph} {n : Nat} {ps : List (Nat × Nat)} {es : List (String × Str)}
    (h : IsTextMapping g n ps es) : Sound g (afterRoot g n) := by
  have hn : n < (Making.start g).made.size := by
    rw [start, Array.size_replicate]
    exact (Array.getElem?_eq_some_iff.1 h.root).1
  refine ⟨rfl, ?_, ?_⟩
  · rw [afterRoot, keep, Array.size_setIfInBounds, start, Array.size_replicate]
  · intro k cs v hk hvalue
    have hkn : k ≠ n := by
      rintro rfl
      have htag := hk.tag
      rw [Graph.tag, h.root] at htag
      cases htag
    have hnone : (start g).value? k = none := by
      rw [value?, start, Array.getElem?_replicate]
      split_ifs <;> rfl
    rw [afterRoot, value?_keep hn, if_neg hkn, hnone] at hvalue
    cases hvalue

/-- **A mapping of texts holds its entries**, in their order, if their keys differ. -/
theorem ofDocument_of_isTextMapping [Stack] {d : Document} {ps : List (Nat × Nat)} {es : List (String × Str)}
    (h : IsTextMapping d.graph d.root ps es) (hkeys : (es.map (·.1)).Nodup) :
    FileValue.ofDocument d = .ok (.mapping (es.map textEntry)) := by
  obtain ⟨g, n⟩ := d
  dsimp only at h
  have htag : g.tag n = .mapping := by rw [Graph.tag, h.root]
  have hcontent := content_of_isTextMapping h
  have hentries : g.entries n = ps := by rw [Graph.entries, hcontent]
  obtain ⟨size, hsize⟩ : ∃ k, g.size = k + 1 :=
    Nat.exists_eq_add_one.2 (Nat.zero_lt_of_lt (Array.getElem?_eq_some_iff.1 h.root).1)
  obtain ⟨m, hmake, hadvances, hmade⟩ := Making.foldlM_makeEntry (Making.sound_afterRoot h) h.entries
  have hroot : (Making.start g).make n = .ok (.other .mapping, { Making.afterRoot g n with pending := [n] }) := by
    have hnone : (Making.start g).value? n = none := by
      rw [Making.value?, Making.start, Array.getElem?_replicate]
      split_ifs <;> rfl
    have hgraph : (Making.start g).graph.tag n = .mapping := htag
    rw [Making.make, hnone, hgraph]
    rfl
  have hinside : (Making.afterRoot g n).makeInside n = .ok m := by
    have hgraph : (Making.afterRoot g n).graph = g := rfl
    simp only [Making.makeInside, hgraph, htag, hcontent, Making.makeInside.makeEntries,
      settle_of_isTextMapping h, bind, Except.bind, hentries]
    exact hmake
  have hpending : m.pending = [] := hadvances.pending
  have hall : Making.makePending g.size { Making.afterRoot g n with pending := [n] } = .ok m := by
    rw [hsize]
    exact Making.makePending_single hinside hpending size rfl
  have hdistinct : ((([] : List (Key × Value)) ++ es.map textEntry).map (·.1)).Nodup := by
    have htexts : (es.map textEntry).map (·.1) = (es.map (·.1)).map Key.text := by simp [textEntry, Function.comp_def]
    rw [List.nil_append, htexts]
    exact hkeys.map fun _ _ hk => Key.text.inj hk
  simp [FileValue.ofDocument, hroot, hall, hadvances.sound.graph, hentries, hmade, foldl_putKey hdistinct]

end SchemaTypings.Config
