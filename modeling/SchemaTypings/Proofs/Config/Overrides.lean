/-
Settings that are overridden again and again.

Each map of values is put over the last good settings (`lastGood`). What validation reads of entries, the three fields and
the unknown keys (`SameReading`), stays the same when the entries that were accepted are replaced by the fields of the
settings they give (`sameReading_of_ofEntries`). So maps in a row are the one map that they merge to, nulls left out
(`override_merged`), and maps without a common key may be put over settings in any order (`override_comm`).
`override_run` puts it together. The key that no override may have is refused even with a null: for such a map none of
it holds (`not_override_run_reserved`).

The keys of a map may be any strings. One that is no text is refused with the whole map, and so it is in the merged map;
keys that are texts are the same as texts and as strings (`asStrings`).
-/
import SchemaTypings.Proofs.Config.SavedText
import SchemaTypings.Proofs.Entries

namespace SchemaTypings.Config.Settings

open SchemaTypings.Text

variable {es fs new : Entries Value} {c s : Settings Str} {o : Entries Value Str} {os : List (Entries Value Str)}

/-! ## What validation reads of entries -/

def isUnknown (key : String) : Bool := key ≠ contextKey ∧ key ≠ headerKey ∧ key ≠ indentKey

/-- entries whose keys are no fields -/
def unknown (es : Entries Value) : Entries Value := es.filter fun e => isUnknown e.1

theorem unknownKeys_eq (es : Entries Value) : unknownKeys es = (unknown es).map fun e => ⟨e.1, .unknownKey⟩ := rfl

/-- entries of which validation reads the same -/
structure SameReading (es fs : Entries Value) : Prop where
  context : contextField es = contextField fs
  header : field es headerKey defaultHeader = field fs headerKey defaultHeader
  indent : field es indentKey defaultIndent = field fs indentKey defaultIndent
  unknown : unknown es = unknown fs

theorem SameReading.trans {gs : Entries Value} (h : SameReading es fs) (h' : SameReading fs gs) : SameReading es gs :=
  ⟨h.context.trans h'.context, h.header.trans h'.header, h.indent.trans h'.indent, h.unknown.trans h'.unknown⟩

theorem SameReading.symm (h : SameReading es fs) : SameReading fs es :=
  ⟨h.context.symm, h.header.symm, h.indent.symm, h.unknown.symm⟩

theorem SameReading.ofEntries_eq (h : SameReading es fs) : ofEntries es = ofEntries fs := by
  have hunknown : unknownKeys es = unknownKeys fs := by rw [unknownKeys_eq, unknownKeys_eq, h.unknown]
  rw [ofEntries, ofEntries, problems, problems, h.context, h.header, h.indent, hunknown]

/-- what is read of entries by the value of one key -/
def ReadsOnly {β : Type} (key : String) (read : Entries Value → β) : Prop :=
  ∀ es fs : Entries Value, es.get? key = fs.get? key → read es = read fs

theorem field_readsOnly (key fallback : String) : ReadsOnly key (field · key fallback) := by
  intro es fs h
  show field es key fallback = field fs key fallback
  rw [field, field, h]

theorem contextField_readsOnly : ReadsOnly contextKey contextField := by
  intro es fs h
  rw [contextField, contextField, field, field, h]

theorem unknown_update (es new : Entries Value) : unknown (es.update new) = (unknown es).update (unknown new) :=
  Entries.filter_update isUnknown es new

/-- what is read of a field after others are put over it: a value of the others if there is one -/
theorem get?_update_cases (es new : Entries Value) (key : String) :
    (∀ fs : Entries Value, (fs.update new).get? key = (es.update new).get? key) ∨
      ∀ fs : Entries Value, (fs.update new).get? key = fs.get? key := by
  cases hnew : (Entries.update [] new).get? key with
  | some v =>
    refine .inl fun fs => ?_
    rw [Entries.get?_update, Entries.get?_update es, hnew, Option.some_or, Option.some_or]
  | none =>
    refine .inr fun fs => ?_
    rw [Entries.get?_update, hnew, Option.none_or]

theorem ReadsOnly.update {β : Type} {key : String} {read : Entries Value → β} (hread : ReadsOnly key read)
    (h : read es = read fs) (new : Entries Value) : read (es.update new) = read (fs.update new) := by
  rcases get?_update_cases es new key with hnew | hold
  · exact hread _ _ (hnew fs).symm
  · calc read (es.update new)
      _ = read es := hread _ _ (hold es)
      _ = read fs := h
      _ = read (fs.update new) := (hread _ _ (hold fs)).symm

/-- what can be read of entries, and of the others over some entries, can be read of the others over these entries -/
theorem ReadsOnly.exists_update {β ε : Type} {key : String} {read : Entries Value → Except ε β} {a b : β}
    (hread : ReadsOnly key read) (ha : read es = .ok a) (hb : read (fs.update new) = .ok b) :
    ∃ r, read (es.update new) = .ok r := by
  rcases get?_update_cases fs new key with hnew | hold
  · exact ⟨b, (hread _ _ (hnew es)).trans hb⟩
  · exact ⟨a, (hread _ _ (hold es)).trans ha⟩

theorem SameReading.update (h : SameReading es fs) (new : Entries Value) :
    SameReading (es.update new) (fs.update new) where
  context := contextField_readsOnly.update h.context new
  header := (field_readsOnly headerKey defaultHeader).update h.header new
  indent := (field_readsOnly indentKey defaultIndent).update h.indent new
  unknown := by rw [unknown_update, unknown_update, h.unknown]

/-- entries are accepted exactly if each field can be read and no key is unknown -/
theorem ofEntries_eq_ok :
    ofEntries es = .ok s ↔ contextField es = .ok ⟨s.context, s.context_ne⟩ ∧
      field es headerKey defaultHeader = .ok s.header ∧ field es indentKey defaultIndent = .ok s.indent ∧
      unknown es = [] := by
  have hunknown : unknownKeys es = [] ↔ unknown es = [] := by rw [unknownKeys_eq, List.map_eq_nil_iff]
  rw [← hunknown]
  constructor
  · intro h
    unfold ofEntries at h
    split at h
    · next hc hh hi hu =>
      obtain rfl := Except.ok.inj h
      exact ⟨hc, hh, hi, hu⟩
    · cases h
  · rintro ⟨hc, hh, hi, hu⟩
    rw [ofEntries, hc, hh, hi, hu]

/-- accepted entries may be replaced by the fields of the settings -/
theorem sameReading_of_ofEntries (h : ofEntries es = .ok s) : SameReading es s.entries := by
  obtain ⟨hc, hh, hi, hu⟩ := ofEntries_eq_ok.1 h
  obtain ⟨hc', hh', hi', hu'⟩ := ofEntries_eq_ok.1 (ofEntries_entries s)
  exact ⟨hc.trans hc'.symm, hh.trans hh'.symm, hi.trans hi'.symm, hu.trans hu'.symm⟩

/-! ## Keys -/

/-- entries with texts as keys, as entries with strings as keys -/
def asStrings (es : Entries Value) : Entries Value Str := es.map fun e => (.text e.1, e.2)

theorem update_asStrings (es new : Entries Value) : (asStrings es).update (asStrings new) = asStrings (es.update new) :=
  Entries.update_map (fun _ _ => Str.text.inj) es new

theorem nodup_of_asStrings (h : (asStrings es).keys.Nodup) : es.keys.Nodup := by
  have hkeys : (asStrings es).keys = es.keys.map Str.text := by simp [asStrings, Entries.keys, Function.comp_def]
  rw [hkeys] at h
  exact List.Nodup.of_map _ h

@[simp]
theorem textKeyed?_asStrings (es : Entries Value) : textKeyed? (asStrings es) = some es := by
  induction es with
  | nil => rfl
  | cons e es ih =>
    have hcons : asStrings (e :: es) = (.text e.1, e.2) :: asStrings es := rfl
    rw [textKeyed?] at ih ⊢
    rw [hcons, List.mapM_cons, ih]
    rfl

/-- keys are texts, or one of them is none -/
theorem textKeyed?_cases (o : Entries Value Str) :
    (∃ new, o = asStrings new) ∨ textKeyed? o = none ∧ ∃ u, .unpaired u ∈ o.keys := by
  induction o with
  | nil => exact .inl ⟨[], rfl⟩
  | cons e o ih =>
    obtain ⟨k, v⟩ := e
    cases k with
    | unpaired u => exact .inr ⟨by rw [textKeyed?, List.mapM_cons]; rfl, u, List.mem_cons_self⟩
    | text k =>
      rcases ih with ⟨new, rfl⟩ | ⟨hnone, u, hu⟩
      · exact .inl ⟨(k, v) :: new, rfl⟩
      · refine .inr ⟨?_, u, List.mem_cons_of_mem _ hu⟩
        rw [textKeyed?] at hnone ⊢
        rw [List.mapM_cons, hnone]
        rfl

theorem textKeyed?_eq_none {u : Unpaired} (h : .unpaired u ∈ o.keys) : textKeyed? o = none := by
  rcases textKeyed?_cases o with ⟨new, rfl⟩ | ⟨hnone, _⟩
  · simp [asStrings, Entries.keys] at h
  · exact hnone

/-! ## One map -/

theorem override_of_isSome (h : (o.get? (.text reservedKey)).isSome) (s : Settings Str) :
    s.override o = .error .reservedKey := by
  rw [override, if_pos h]

theorem override_of_unpaired {u : Unpaired} (h : o.get? (.text reservedKey) = none) (hu : .unpaired u ∈ (values o).keys)
    (s : Settings Str) : s.override o = .error .keyNotUnicode := by
  rw [override, h, textKeyed?_eq_none hu]
  rfl

theorem override_of_asStrings (h : o.get? (.text reservedKey) = none) (hnew : values o = asStrings new)
    (s : Settings Str) : s.override o = (ofEntries (s.entries.update new)).mapError .invalid := by
  rw [override, h, hnew, textKeyed?_asStrings]
  rfl

theorem override_eq_ok {t : Settings Str} :
    s.override o = .ok t ↔ o.get? (.text reservedKey) = none ∧
      ∃ new, values o = asStrings new ∧ ofEntries (s.entries.update new) = .ok t := by
  cases hget : o.get? (.text reservedKey) with
  | some v => simp [override_of_isSome (Option.isSome_of_eq_some hget)]
  | none =>
    rcases textKeyed?_cases (values o) with ⟨new, hnew⟩ | ⟨hnone, u, hu⟩
    · rw [override_of_asStrings hget hnew]
      constructor
      · intro h
        refine ⟨rfl, new, hnew, ?_⟩
        cases haccepted : ofEntries (s.entries.update new) with
        | error e =>
          rw [haccepted] at h
          cases h
        | ok t' =>
          rw [haccepted] at h
          exact congrArg Except.ok (Except.ok.inj h)
      · rintro ⟨-, new', hnew', h⟩
        obtain rfl : new = new' := Option.some.inj (by rw [← textKeyed?_asStrings, ← hnew, hnew', textKeyed?_asStrings])
        rw [h]
        rfl
    · rw [override_of_unpaired hget hu]
      constructor
      · nofun
      · rintro ⟨-, new, hnew, -⟩
        rw [hnew, textKeyed?_asStrings] at hnone
        cases hnone

theorem mem_of_get? {κ : Type} [DecidableEq κ] {es : Entries Value κ} {key : κ} {v : Value} (h : es.get? key = some v) :
    (key, v) ∈ es := by
  obtain ⟨as, bs, rfl, _⟩ := List.lookup_eq_some_iff.1 h
  exact List.mem_append_right _ List.mem_cons_self

/-- a map of nulls changes nothing -/
theorem override_nulls (ho : o.get? (.text reservedKey) ≠ some (.other .null)) (h : ∀ e ∈ o, e.2.isNull = true)
    (s : Settings Str) : s.override o = .ok s := by
  have hnone : o.get? (.text reservedKey) = none := by
    cases hget : o.get? (.text reservedKey) with
    | none => rfl
    | some v =>
      have hv : v = .other .null := of_decide_eq_true (h _ (mem_of_get? hget))
      exact absurd (hv ▸ hget) ho
  have hvalues : values o = asStrings [] := List.filter_eq_nil_iff.2 fun e he => by simp [h e he]
  exact override_eq_ok.2 ⟨hnone, [], hvalues, ofEntries_entries s⟩

/-! ## Maps in a row -/

/-- the map that maps in a row merge to -/
def merged (os : List (Entries Value Str)) : Entries Value Str := os.foldl (fun merged o => merged.update (values o)) []

@[simp]
theorem merged_concat (os : List (Entries Value Str)) (o : Entries Value Str) :
    merged (os ++ [o]) = (merged os).update (values o) := by
  rw [merged, List.foldl_append]
  rfl

theorem nodup_merged (os : List (Entries Value Str)) : (merged os).keys.Nodup := by
  induction os using List.reverseRecOn with
  | nil => exact List.nodup_nil
  | append_singleton os o ih =>
    rw [merged_concat]
    exact Entries.nodup_update ih _

theorem values_merged (os : List (Entries Value Str)) : values (merged os) = merged os := by
  refine List.filter_eq_self.2 ?_
  induction os using List.reverseRecOn with
  | nil => exact fun e he => nomatch he
  | append_singleton os o ih =>
    intro e he
    rw [merged_concat] at he
    rcases Entries.mem_update he with he | he
    · exact ih e he
    · exact (List.mem_filter.1 he).2

theorem notMem_keys_values {key : Str} (h : o.get? key = none) : key ∉ (values o).keys := fun hkey =>
  Entries.get?_eq_none.1 h ((List.filter_sublist.map Prod.fst).subset hkey)

/-- what settings hold after maps in a row reads like what they held, with the merged map put over it -/
theorem sameReading_merged (h : os.foldlM override c = .ok s) :
    (merged os).get? (.text reservedKey) = none ∧
      ∃ new, merged os = asStrings new ∧ SameReading s.entries (c.entries.update new) := by
  induction os using List.reverseRecOn generalizing s with
  | nil =>
    obtain rfl := Except.ok.inj h
    exact ⟨rfl, [], rfl, rfl, rfl, rfl, rfl⟩
  | append_singleton os o ih =>
    rw [List.foldlM_append] at h
    cases hbefore : os.foldlM override c with
    | error e =>
      rw [hbefore] at h
      cases h
    | ok s' =>
      obtain ⟨hkey, before, hmerged, hread⟩ := ih hbefore
      rw [hbefore] at h
      have hlast : s'.override o = .ok s := (bind_pure (s'.override o)).symm.trans h
      obtain ⟨hget, new, hnew, haccepted⟩ := override_eq_ok.1 hlast
      have hnodup : before.keys.Nodup := nodup_of_asStrings (hmerged ▸ nodup_merged os)
      rw [merged_concat]
      constructor
      · rw [Entries.get?_eq_none, Entries.mem_keys_update, not_or]
        exact ⟨Entries.get?_eq_none.1 hkey, notMem_keys_values hget⟩
      · refine ⟨before.update new, by rw [hmerged, hnew, update_asStrings], ?_⟩
        rw [Entries.update_update _ hnodup]
        exact (sameReading_of_ofEntries haccepted).symm.trans (hread.update new)

/-- **Maps in a row are one map.** After maps that are accepted a further one does to the settings what the merged map
does to those at the start: the same settings, or the same faults in the same order. -/
theorem override_merged (h : os.foldlM override c = .ok s) (ho : o.get? (.text reservedKey) ≠ some (.other .null)) :
    s.override o = c.override (merged (os ++ [o])) := by
  obtain ⟨hkey, before, hbefore, hread⟩ := sameReading_merged h
  cases hget : o.get? (.text reservedKey) with
  | some v =>
    have hv : (.text reservedKey, v) ∈ values o :=
      List.mem_filter.2 ⟨mem_of_get? hget, by
        have hv : v ≠ .other .null := fun hnull => ho (hget.trans (congrArg some hnull))
        simpa [Value.isNull] using hv⟩
    have hmerged : ((merged (os ++ [o])).get? (.text reservedKey)).isSome := by
      rw [Entries.get?_isSome, merged_concat, Entries.mem_keys_update]
      exact .inr (List.mem_map_of_mem hv)
    rw [override_of_isSome (Option.isSome_of_eq_some hget), override_of_isSome hmerged]
  | none =>
    have hmerged : (merged (os ++ [o])).get? (.text reservedKey) = none := by
      rw [merged_concat, Entries.get?_eq_none, Entries.mem_keys_update, not_or]
      exact ⟨Entries.get?_eq_none.1 hkey, notMem_keys_values hget⟩
    rcases textKeyed?_cases (values o) with ⟨new, hnew⟩ | ⟨_, u, hu⟩
    · have hvalues : values (merged (os ++ [o])) = asStrings (before.update new) := by
        rw [values_merged, merged_concat, hbefore, hnew, update_asStrings]
      have hnodup : before.keys.Nodup := nodup_of_asStrings (hbefore ▸ nodup_merged os)
      rw [override_of_asStrings hget hnew, override_of_asStrings hmerged hvalues, Entries.update_update _ hnodup,
        (hread.update new).ofEntries_eq]
    · have hkept : .unpaired u ∈ (values (merged (os ++ [o]))).keys := by
        rw [values_merged, merged_concat, Entries.mem_keys_update]
        exact .inr hu
      rw [override_of_unpaired hget hu, override_of_unpaired hmerged hkept]

/-! ## Maps in any order -/

/-- what is accepted over one list of entries is accepted over any that is accepted itself -/
theorem exists_ofEntries_update {t : Settings Str} (hs : ofEntries es = .ok s) (ht : ofEntries (fs.update new) = .ok t) :
    ∃ t', ofEntries (es.update new) = .ok t' := by
  obtain ⟨hc, hh, hi, hu⟩ := ofEntries_eq_ok.1 hs
  obtain ⟨hc', hh', hi', hu'⟩ := ofEntries_eq_ok.1 ht
  obtain ⟨context, hcontext⟩ := contextField_readsOnly.exists_update hc hc'
  obtain ⟨header, hheader⟩ := (field_readsOnly headerKey defaultHeader).exists_update hh hh'
  obtain ⟨indent, hindent⟩ := (field_readsOnly indentKey defaultIndent).exists_update hi hi'
  rw [unknown_update, Entries.update_eq_nil] at hu'
  refine ⟨⟨context, header, indent, context.property⟩, ofEntries_eq_ok.2 ⟨hcontext, hheader, hindent, ?_⟩⟩
  rw [unknown_update, Entries.update_eq_nil]
  exact ⟨hu, hu'.2⟩

/-- the values found after two lists are put in do not depend on their order, if they have no common key -/
theorem get?_update_comm {as bs : Entries Value} (h : ∀ a ∈ as, ∀ b ∈ bs, a.1 ≠ b.1) (es : Entries Value)
    (key : String) : ((es.update as).update bs).get? key = ((es.update bs).update as).get? key := by
  have hnone : (Entries.update [] as).get? key = none ∨ (Entries.update [] bs).get? key = none := by
    rw [Entries.get?_eq_none, Entries.get?_eq_none, Entries.mem_keys_update, Entries.mem_keys_update]
    by_contra hboth
    have hkeys : key ∈ as.keys ∧ key ∈ bs.keys := by simpa using hboth
    obtain ⟨a, ha, hkeya⟩ := List.mem_map.1 hkeys.1
    obtain ⟨b, hb, hkeyb⟩ := List.mem_map.1 hkeys.2
    exact h a ha b hb (hkeya.trans hkeyb.symm)
  rw [Entries.get?_update, Entries.get?_update es, Entries.get?_update (es.update bs), Entries.get?_update es bs]
  rcases hnone with hnone | hnone
  · rw [hnone, Option.none_or, Option.none_or]
  · rw [hnone, Option.none_or, Option.none_or]

/-- keys of strings that are texts differ as texts -/
theorem ne_of_asStrings (hkeys : ∀ e ∈ asStrings es, ∀ e' ∈ asStrings fs, e.1 ≠ e'.1) :
    ∀ a ∈ es, ∀ b ∈ fs, a.1 ≠ b.1 := fun _ ha _ hb heq =>
  hkeys _ (List.mem_map_of_mem ha) _ (List.mem_map_of_mem hb) (congrArg Str.text heq)

/-- **Maps without a common key may be put over settings in any order**, nulls left aside. -/
theorem override_comm {o' : Entries Value Str} {s' : Settings Str} (h : c.override o = .ok s)
    (h' : c.override o' = .ok s') (hkeys : ∀ e ∈ values o, ∀ e' ∈ values o', e.1 ≠ e'.1) :
    ∃ t, s.override o' = .ok t ∧ s'.override o = .ok t := by
  obtain ⟨hget, new, hnew, haccepted⟩ := override_eq_ok.1 h
  obtain ⟨hget', new', hnew', haccepted'⟩ := override_eq_ok.1 h'
  rw [hnew, hnew'] at hkeys
  have hread := (sameReading_of_ofEntries haccepted).update new'
  have hread' := (sameReading_of_ofEntries haccepted').update new
  obtain ⟨_, _, _, hu⟩ := ofEntries_eq_ok.1 haccepted
  obtain ⟨_, _, _, hu'⟩ := ofEntries_eq_ok.1 haccepted'
  have hsame : SameReading ((c.entries.update new).update new') ((c.entries.update new').update new) := by
    have hfound : ∀ key, ((c.entries.update new).update new').get? key = ((c.entries.update new').update new).get? key :=
      get?_update_comm (ne_of_asStrings hkeys) c.entries
    refine ⟨contextField_readsOnly _ _ (hfound _), field_readsOnly _ _ _ _ (hfound _),
      field_readsOnly _ _ _ _ (hfound _), ?_⟩
    rw [unknown_update, hu, unknown_update (c.entries.update new'), hu']
    rw [unknown_update, Entries.update_eq_nil] at hu hu'
    rw [hu.2, hu'.2]
  obtain ⟨t, ht⟩ := exists_ofEntries_update (ofEntries_entries s) haccepted'
  refine ⟨t, override_eq_ok.2 ⟨hget', new', hnew', ht⟩, override_eq_ok.2 ⟨hget, new, hnew, ?_⟩⟩
  rw [← ht]
  exact (hread.symm.trans (hsame.trans hread')).ofEntries_eq.symm

/-! ## Runs -/

/-- the last good settings after maps in a row: one that is refused leaves them as they were -/
def lastGood (c : Settings Str) (os : List (Entries Value Str)) : Settings Str :=
  os.foldl (fun s o => (s.override o).toOption.getD s) c

theorem lastGood_of_accepted (h : os.foldlM override c = .ok s) : lastGood c os = s := by
  induction os generalizing c with
  | nil => exact Except.ok.inj h
  | cons o os ih =>
    cases ho : c.override o with
    | error e =>
      rw [List.foldlM_cons, ho] at h
      cases h
    | ok c' =>
      rw [List.foldlM_cons, ho] at h
      have hstep : lastGood c (o :: os) = lastGood c' os := by rw [lastGood, List.foldl_cons, ho]; rfl
      rw [hstep]
      exact ih h

/-- **In a run of overrides the last value that is not null wins.** The settings reached are valid; a map of nulls
leaves them; maps that are accepted are the one map they merge to; and two of them without a common key commute. -/
theorem override_run (c : Settings Str) (os : List (Entries Value Str)) (o : Entries Value Str)
    (ho : o.get? (.text reservedKey) ≠ some (.other .null)) :
    ((lastGood c os).context ≠ "" ∧ ofEntries (lastGood c os).entries = .ok (lastGood c os)) ∧
      ((∀ e ∈ o, e.2.isNull = true) → (lastGood c os).override o = .ok (lastGood c os)) ∧
      (∀ s, os.foldlM override c = .ok s →
        lastGood c os = s ∧ s.override o = c.override (merged (os ++ [o]))) ∧
      ∀ o' s s', c.override o = .ok s → c.override o' = .ok s' →
        (∀ e ∈ values o, ∀ e' ∈ values o', e.1 ≠ e'.1) → ∃ t, s.override o' = .ok t ∧ s'.override o = .ok t := by
  refine ⟨⟨(lastGood c os).context_ne, ofEntries_entries _⟩, ?_, ?_, ?_⟩
  · intro hnull
    exact override_nulls ho hnull _
  · intro s hs
    exact ⟨lastGood_of_accepted hs, override_merged hs ho⟩
  · intro o' s s' h h' hkeys
    exact override_comm h h' hkeys

def half : Unpaired := ⟨[.half ⟨0xD800, by decide⟩], rfl⟩

/-- two maps that are accepted, with bytes, a null under a key that is no text, and a string that is none; and one that is
refused for two reasons -/
def acceptedMaps : List (Entries Value Str) :=
  [[(.text "header", .bytes [104]), (.unpaired half, .other .null)],
    [(.text "indent", .text " "), (.text "header", .unpaired half)]]

def refusedMap : Entries Value Str :=
  [(.text "width", .other .int), (.text "context", .text ""), (.text "indent", .other .null)]

theorem override_run_refused :
    refusedMap.get? (.text reservedKey) ≠ some (.other .null) ∧
      acceptedMaps.foldlM override default.strings = .ok ⟨"Request", .unpaired half, .text " ", by decide⟩ ∧
      (lastGood default.strings acceptedMaps).override refusedMap =
        default.strings.override (merged (acceptedMaps ++ [refusedMap])) ∧
      default.strings.override (merged (acceptedMaps ++ [refusedMap])) =
        .error (.invalid [⟨"context", .tooShort⟩, ⟨"width", .unknownKey⟩]) := by
  have hreserved : refusedMap.get? (.text reservedKey) ≠ some (.other .null) := by decide
  have haccepted :
      acceptedMaps.foldlM override default.strings = .ok ⟨"Request", .unpaired half, .text " ", by decide⟩ := by
    decide +kernel
  obtain ⟨_, _, hrun, _⟩ := override_run default.strings acceptedMaps refusedMap hreserved
  obtain ⟨hgood, hmerged⟩ := hrun _ haccepted
  rw [hgood]
  exact ⟨hreserved, haccepted, hmerged, by decide +kernel⟩

/-- a map with nothing but a null under the key that no override may have is refused -/
theorem not_override_run_reserved :
    ¬ ∀ (c : Settings Str) (os : List (Entries Value Str)) (o : Entries Value Str),
      (∀ e ∈ o, e.2.isNull = true) → (lastGood c os).override o = .ok (lastGood c os) := by
  intro h
  have hnull := h default.strings [] [(.text reservedKey, .other .null)] (by decide)
  cases hnull

end SchemaTypings.Config.Settings
