/-
What validation says of entries.

Whether a value is refused, and why, depends on nothing but its key (`Refused`), and every value is either accepted or
refused for one reason (`not_isAcceptable_iff`, `Refused.unique`). What is read of a field fails for the reason for which
its value is refused (`Judges`), so that the problems are the values that are refused (`mem_problems_iff`): none hides
another one, and only their order depends on the order of the entries (`ofEntries_exact`).
-/
import SchemaTypings.Proofs.Config.Faults
import SchemaTypings.Proofs.Config.Published

namespace SchemaTypings.Config

open Published (fieldKeys)
open SchemaTypings.Text

/-! ## Values -/

/-- the string that a value stands for: itself, or for bytes the text that has them in UTF-8 -/
inductive Decodes : Value → Str → Prop
  | text (s : String) : Decodes (.text s) (.text s)
  | bytes (s : String) : Decodes (.bytes s.toUTF8.data.toList) (.text s)
  | unpaired (u : Unpaired) : Decodes (.unpaired u) (.unpaired u)

theorem decodeUtf8?_eq_some_iff {data : List UInt8} {s : String} :
    decodeUtf8? data = some s ↔ s.toUTF8.data.toList = data := by
  unfold decodeUtf8? String.fromUTF8?
  constructor
  · intro h
    split_ifs at h
    cases h
    rfl
  · rintro rfl
    exact dif_pos s.isValidUTF8

theorem decodes_bytes_iff {data : List UInt8} {s : Str} :
    Decodes (.bytes data) s ↔ ∃ t, s = .text t ∧ decodeUtf8? data = some t := by
  constructor
  · rintro ⟨⟩
    exact ⟨_, rfl, decodeUtf8?_eq_some_iff.2 rfl⟩
  · rintro ⟨t, rfl, ht⟩
    obtain rfl := decodeUtf8?_eq_some_iff.1 ht
    exact .bytes t

theorem Decodes.unique {v : Value} {s t : Str} (hs : Decodes v s) (ht : Decodes v t) : s = t := by
  cases v with
  | bytes data =>
    obtain ⟨a, rfl, ha⟩ := decodes_bytes_iff.1 hs
    obtain ⟨b, rfl, hb⟩ := decodes_bytes_iff.1 ht
    rw [Option.some.inj (ha.symm.trans hb)]
  | other sort => cases hs
  | _ =>
    cases hs
    cases ht
    rfl

/-- what is accepted under a key: strings and bytes of texts, for a field, and for the context type not an empty one, nor a
string that is no text -/
structure IsAcceptable (key : String) (v : Value) : Prop where
  known : key ∈ fieldKeys
  decoded : ∃ s, Decodes v s ∧ (key = Settings.contextKey → s ≠ .text "")
  paired : key = Settings.contextKey → ∀ u, v ≠ .unpaired u

/-- why a value is refused under a key -/
inductive Refused : String → Value → Refusal → Prop
  | unknownKey {key : String} {v : Value} (h : key ∉ fieldKeys) : Refused key v .unknownKey
  | notText {key : String} {sort : NonText} (h : key ∈ fieldKeys) : Refused key (.other sort) .notText
  | notUnicode {key : String} {data : List UInt8} (h : key ∈ fieldKeys)
    (hdata : ∀ s : String, s.toUTF8.data.toList ≠ data) : Refused key (.bytes data) .notUnicode
  | unpaired (u : Unpaired) : Refused Settings.contextKey (.unpaired u) .notUnicode
  | tooShort {v : Value} (h : Decodes v (.text "")) : Refused Settings.contextKey v .tooShort

/-- what is made of the value of a field -/
theorem str?_cases {key : String} (hkey : key ∈ fieldKeys) (v : Value) :
    (∃ s, v.str? = .ok s ∧ Decodes v s) ∨ ∃ r, v.str? = .error r ∧ Refused key v r := by
  cases v with
  | text s => exact .inl ⟨.text s, rfl, .text s⟩
  | unpaired u => exact .inl ⟨.unpaired u, rfl, .unpaired u⟩
  | bytes data =>
    rw [Value.str?]
    cases h : decodeUtf8? data with
    | some s => exact .inl ⟨.text s, rfl, decodes_bytes_iff.2 ⟨s, rfl, h⟩⟩
    | none =>
      refine .inr ⟨.notUnicode, rfl, .notUnicode hkey fun s hs => ?_⟩
      rw [decodeUtf8?_eq_some_iff.2 hs] at h
      cases h
  | other sort => exact .inr ⟨.notText, rfl, .notText hkey⟩

theorem decodes_of_str? {v : Value} {s : Str} (h : v.str? = .ok s) : Decodes v s := by
  have hkey : Settings.contextKey ∈ fieldKeys := List.mem_cons_self
  rcases str?_cases hkey v with ⟨t, ht, hdecodes⟩ | ⟨r, hr, _⟩
  · obtain rfl := Except.ok.inj (h.symm.trans ht)
    exact hdecodes
  · cases h.symm.trans hr

/-- only a string that is no text stands for one -/
theorem eq_of_decodes_unpaired {v : Value} {u : Unpaired} (h : Decodes v (.unpaired u)) : v = .unpaired u := by
  cases h
  rfl

theorem not_decodes_of_notUnicode {data : List UInt8} (hdata : ∀ s : String, s.toUTF8.data.toList ≠ data) (s : Str) :
    ¬ Decodes (.bytes data) s := by
  intro h
  obtain ⟨t, _, ht⟩ := decodes_bytes_iff.1 h
  exact hdata t (decodeUtf8?_eq_some_iff.1 ht)

theorem IsAcceptable.not_refused {key : String} {v : Value} (h : IsAcceptable key v) (r : Refusal) :
    ¬ Refused key v r := by
  obtain ⟨s, hs, hne⟩ := h.decoded
  intro hr
  cases hr with
  | unknownKey hkey => exact hkey h.known
  | notText hkey => cases hs
  | notUnicode hkey hdata => exact not_decodes_of_notUnicode hdata s hs
  | unpaired u => exact h.paired rfl u rfl
  | tooShort hempty => exact hne rfl (hs.unique hempty)

/-- **What is not accepted is refused for a reason.** -/
theorem not_isAcceptable_iff {key : String} {v : Value} : ¬ IsAcceptable key v ↔ ∃ r, Refused key v r := by
  refine ⟨fun h => ?_, fun ⟨r, hr⟩ h => h.not_refused r hr⟩
  by_cases hkey : key ∈ fieldKeys
  · rcases str?_cases hkey v with ⟨s, _, hs⟩ | ⟨r, _, hr⟩
    · by_cases hcontext : key = Settings.contextKey
      · subst hcontext
        by_cases hempty : s = .text ""
        · exact ⟨.tooShort, .tooShort (hempty ▸ hs)⟩
        · by_cases hunpaired : ∃ u, v = .unpaired u
          · obtain ⟨u, rfl⟩ := hunpaired
            exact ⟨.notUnicode, .unpaired u⟩
          · exact absurd ⟨hkey, ⟨s, hs, fun _ => hempty⟩, fun _ => not_exists.1 hunpaired⟩ h
      · exact absurd ⟨hkey, ⟨s, hs, (absurd · hcontext)⟩, (absurd · hcontext)⟩ h
    · exact ⟨r, hr⟩
  · exact ⟨.unknownKey, .unknownKey hkey⟩

/-- **There is one reason at most.** -/
theorem Refused.unique {key : String} {v : Value} {r r' : Refusal} (h : Refused key v r) (h' : Refused key v r') :
    r = r' := by
  have hcontext : Settings.contextKey ∈ fieldKeys := List.mem_cons_self
  cases h with
  | unknownKey hkey =>
    cases h' with
    | unknownKey _ => rfl
    | notText hkey' => exact absurd hkey' hkey
    | notUnicode hkey' _ => exact absurd hkey' hkey
    | unpaired u => exact absurd hcontext hkey
    | tooShort _ => exact absurd hcontext hkey
  | notText hkey =>
    cases h' with
    | unknownKey hkey' => exact absurd hkey hkey'
    | notText _ => rfl
    | tooShort h => cases h
  | notUnicode hkey hdata =>
    cases h' with
    | unknownKey hkey' => exact absurd hkey hkey'
    | notUnicode _ _ => rfl
    | tooShort h => exact absurd h (not_decodes_of_notUnicode hdata _)
  | unpaired u =>
    cases h' with
    | unknownKey hkey' => exact absurd hcontext hkey'
    | unpaired _ => rfl
    | tooShort h => cases h
  | tooShort h =>
    cases h' with
    | unknownKey hkey' => exact absurd hcontext hkey'
    | notText _ => cases h
    | notUnicode _ hdata => exact absurd h (not_decodes_of_notUnicode hdata _)
    | unpaired u => cases h
    | tooShort _ => rfl

namespace Settings

variable {es fs : Entries Value} {key : String}

/-! ## Fields -/

/-- what is read of a field fails just if the value of its key is refused, and for the same reason -/
def Judges {α : Type} (es : Entries Value) (key : String) : Except Refusal α → Prop
  | .ok _ => ∀ v, es.get? key = some v → IsAcceptable key v
  | .error r => ∃ v, es.get? key = some v ∧ Refused key v r

theorem judges_field (hkey : key ∈ fieldKeys) (hother : key ≠ contextKey) (fallback : String) :
    Judges es key (field es key fallback) := by
  rw [field]
  cases hget : es.get? key with
  | none => exact fun v hv => by rw [hget] at hv; cases hv
  | some v =>
    dsimp only
    rcases str?_cases hkey v with ⟨s, htext, hs⟩ | ⟨r, htext, hr⟩
    · rw [htext]
      intro w hw
      obtain rfl := Option.some.inj (hget.symm.trans hw)
      exact ⟨hkey, ⟨s, hs, (absurd · hother)⟩, (absurd · hother)⟩
    · rw [htext]
      exact ⟨v, hget, hr⟩

theorem judges_contextField : Judges es contextKey (contextField es) := by
  have hkey : contextKey ∈ fieldKeys := List.mem_cons_self
  rw [contextField, field]
  cases hget : es.get? contextKey with
  | none =>
    have hdefault : defaultContext ≠ "" := by decide
    simp only [dif_neg hdefault]
    exact fun v hv => by rw [hget] at hv; cases hv
  | some v =>
    rcases str?_cases hkey v with ⟨s, hstr, hs⟩ | ⟨r, hstr, hr⟩
    · simp only [hstr]
      cases s with
      | unpaired u =>
        obtain rfl := eq_of_decodes_unpaired hs
        exact ⟨.unpaired u, hget, .unpaired u⟩
      | text s =>
        dsimp only
        split_ifs with hempty
        · exact ⟨v, hget, .tooShort (hempty ▸ hs)⟩
        · intro w hw
          obtain rfl := Option.some.inj (hget.symm.trans hw)
          refine ⟨hkey, ⟨.text s, hs, fun _ heq => hempty (Str.text.inj heq)⟩, fun _ u hv => ?_⟩
          rw [hv] at hs
          cases hs
    · simp only [hstr]
      exact ⟨v, hget, hr⟩

/-! ## Problems -/

theorem map_key_problemOf {α : Type} (key : String) (x : Except Refusal α) :
    ((problemOf key x).map Problem.key).Sublist [key] := by
  cases x with
  | ok a => exact List.nil_sublist _
  | error r => exact .refl _

/-- the problem of a field is that its value is refused -/
theorem mem_problemOf {α : Type} {x : Except Refusal α} (h : Judges es key x) {p : Problem} :
    p ∈ problemOf key x ↔ p.key = key ∧ ∃ v, es.get? key = some v ∧ Refused key v p.refusal := by
  obtain ⟨k, r⟩ := p
  cases x with
  | ok a =>
    refine ⟨fun hp => (nomatch hp), ?_⟩
    rintro ⟨_, v, hv, hr⟩
    exact absurd hr ((h v hv).not_refused r)
  | error r' =>
    obtain ⟨v, hv, hr'⟩ := h
    rw [problemOf, List.mem_singleton, Problem.mk.injEq]
    refine and_congr_right fun _ => ⟨?_, ?_⟩
    · rintro rfl
      exact ⟨v, hv, hr'⟩
    · rintro ⟨w, hw, hr⟩
      obtain rfl := Option.some.inj (hv.symm.trans hw)
      exact hr.unique hr'

theorem mem_unknownKeys {p : Problem} :
    p ∈ unknownKeys es ↔ p.key ∉ fieldKeys ∧ ∃ v, (p.key, v) ∈ es ∧ Refused p.key v p.refusal := by
  obtain ⟨k, r⟩ := p
  rw [unknownKeys_eq, unknown, List.mem_map]
  constructor
  · rintro ⟨⟨k', v⟩, he, heq⟩
    cases heq
    obtain ⟨hmem, hunknown⟩ := List.mem_filter.1 he
    have hkey := isUnknown_iff.1 hunknown
    exact ⟨hkey, v, hmem, .unknownKey hkey⟩
  · rintro ⟨hkey, v, hmem, hr⟩
    obtain rfl := hr.unique (.unknownKey hkey)
    exact ⟨(k, v), List.mem_filter.2 ⟨hmem, isUnknown_iff.2 hkey⟩, rfl⟩

/-- **The problems are the values that are refused,** each for its reason. -/
theorem mem_problems_iff (h : es.keys.Nodup) {p : Problem} :
    p ∈ problems es ↔ ∃ v, (p.key, v) ∈ es ∧ Refused p.key v p.refusal := by
  have hcontext : p ∈ problemOf contextKey (contextField es) ↔ _ := mem_problemOf judges_contextField
  have hheader : p ∈ problemOf headerKey (field es headerKey defaultHeader) ↔ _ :=
    mem_problemOf (judges_field (by decide) (by decide) _)
  have hindent : p ∈ problemOf indentKey (field es indentKey defaultIndent) ↔ _ :=
    mem_problemOf (judges_field (by decide) (by decide) _)
  simp only [problems, List.mem_append, hcontext, hheader, hindent, mem_unknownKeys, Entries.get?_eq_some_iff h]
  constructor
  · rintro (((⟨hkey, hr⟩ | ⟨hkey, hr⟩) | ⟨hkey, hr⟩) | ⟨_, hr⟩)
    · exact hkey ▸ hr
    · exact hkey ▸ hr
    · exact hkey ▸ hr
    · exact hr
  · intro hr
    by_cases hkey : p.key ∈ fieldKeys
    · simp only [fieldKeys, List.mem_cons, List.not_mem_nil, or_false] at hkey
      rcases hkey with hkey | hkey | hkey
      · exact .inl (.inl (.inl ⟨hkey, hkey ▸ hr⟩))
      · exact .inl (.inl (.inr ⟨hkey, hkey ▸ hr⟩))
      · exact .inl (.inr ⟨hkey, hkey ▸ hr⟩)
    · exact .inr ⟨hkey, hr⟩

/-- the keys of the problems: fields in their order, and then all keys that are none -/
theorem map_key_problems (es : Entries Value) :
    ∃ known, known.Sublist fieldKeys ∧ (problems es).map Problem.key = known ++ es.keys.filter (· ∉ fieldKeys) := by
  have hunknown : (unknownKeys es).map Problem.key = es.keys.filter (· ∉ fieldKeys) := by
    have hfields : isUnknown = fun key => decide (key ∉ fieldKeys) :=
      funext fun key => Bool.eq_iff_iff.2 (by rw [isUnknown_iff, decide_eq_true_iff])
    rw [unknownKeys_eq, unknown, hfields, Entries.keys, List.filter_map, List.map_map]
    rfl
  have hcontext := map_key_problemOf contextKey (contextField es)
  have hheader := map_key_problemOf headerKey (field es headerKey defaultHeader)
  have hindent := map_key_problemOf indentKey (field es indentKey defaultIndent)
  refine ⟨_, (hcontext.append hheader).append hindent, ?_⟩
  rw [problems, List.map_append, List.map_append, List.map_append, hunknown]

theorem nodup_map_key_problems (h : es.keys.Nodup) : ((problems es).map Problem.key).Nodup := by
  obtain ⟨known, hknown, hkeys⟩ := map_key_problems es
  have hfields : fieldKeys.Nodup := by decide
  rw [hkeys, List.nodup_append']
  refine ⟨hfields.sublist hknown, h.filter _, fun key hkey hunknown => ?_⟩
  exact of_decide_eq_true (List.mem_filter.1 hunknown).2 (hknown.subset hkey)

/-- entries are accepted if they have no problem -/
theorem exists_ofEntries_iff_problems : (∃ s, ofEntries es = .ok s) ↔ problems es = [] := by
  have hfield : ∀ {α : Type} {key : String} {x : Except Refusal α}, problemOf key x = [] ↔ ∃ a, x = .ok a := by
    intro α key x
    cases x with
    | ok a => exact ⟨fun _ => ⟨a, rfl⟩, fun _ => rfl⟩
    | error r => exact ⟨fun h => (nomatch h), fun ⟨_, h⟩ => (nomatch h)⟩
  rw [exists_ofEntries_iff, problems, List.append_eq_nil_iff, List.append_eq_nil_iff, List.append_eq_nil_iff, hfield,
    hfield, hfield, unknownKeys_eq, List.map_eq_nil_iff, and_assoc, and_assoc]

theorem eq_problems_of_ofEntries {ps : List Problem} (h : ofEntries es = .error ps) : ps = problems es := by
  unfold ofEntries at h
  split at h
  · cases h
  · exact (Except.error.inj h).symm

/-- **Entries are accepted if all their values are.** -/
theorem exists_ofEntries_iff_acceptable (h : es.keys.Nodup) :
    (∃ s, ofEntries es = .ok s) ↔ ∀ e ∈ es, IsAcceptable e.1 e.2 := by
  rw [exists_ofEntries_iff_problems, List.eq_nil_iff_forall_not_mem]
  constructor
  · intro hnone e he
    by_contra hrefused
    obtain ⟨r, hr⟩ := not_isAcceptable_iff.1 hrefused
    exact hnone ⟨e.1, r⟩ ((mem_problems_iff h).2 ⟨e.2, he, hr⟩)
  · intro hall p hp
    obtain ⟨v, hv, hr⟩ := (mem_problems_iff h).1 hp
    exact (hall _ hv).not_refused _ hr

/-! ## Settings -/

/-- a field holds what its value stands for, or its default if it has no value -/
structure HoldsField (es : Entries Value) (key fallback : String) (held : Str) : Prop where
  given : ∀ v, (key, v) ∈ es → Decodes v held
  missing : key ∉ es.keys → held = .text fallback

/-- each field of the settings holds what the entries give it -/
structure Holds (es : Entries Value) (s : Settings Str) : Prop where
  context : HoldsField es contextKey defaultContext (.text s.context)
  header : HoldsField es headerKey defaultHeader s.header
  indent : HoldsField es indentKey defaultIndent s.indent

theorem holdsField (h : es.keys.Nodup) {fallback : String} {held : Str} (hfield : field es key fallback = .ok held) :
    HoldsField es key fallback held := by
  rw [field] at hfield
  cases hget : es.get? key with
  | none =>
    rw [hget] at hfield
    refine ⟨fun v hv => ?_, fun _ => (Except.ok.inj hfield).symm⟩
    rw [(Entries.get?_eq_some_iff h).2 hv] at hget
    cases hget
  | some w =>
    rw [hget] at hfield
    refine ⟨fun v hv => ?_, fun hkey => ?_⟩
    · obtain rfl := Option.some.inj (hget.symm.trans ((Entries.get?_eq_some_iff h).2 hv))
      exact decodes_of_str? hfield
    · rw [Entries.get?_eq_none.2 hkey] at hget
      cases hget

/-- what the context type is, its value stands for -/
theorem field_of_contextField {c : { s : String // s ≠ "" }} (h : contextField es = .ok c) :
    field es contextKey defaultContext = .ok (.text c.val) := by
  rw [contextField] at h
  cases hfield : field es contextKey defaultContext with
  | error r =>
    rw [hfield] at h
    cases h
  | ok s =>
    rw [hfield] at h
    cases s with
    | unpaired u => cases h
    | text s =>
      dsimp only at h
      split_ifs at h
      cases h
      rfl

theorem holds_of_ofEntries (hkeys : es.keys.Nodup) {s : Settings Str} (h : ofEntries es = .ok s) : Holds es s := by
  obtain ⟨hcontext, hheader, hindent, _⟩ := ofEntries_eq_ok.1 h
  exact ⟨holdsField hkeys (field_of_contextField hcontext), holdsField hkeys hheader, holdsField hkeys hindent⟩

/-! ## Reports -/

/-- a report of problems: one for each key with a value that is not accepted, and for no other; the fields first, in
their order, and then the keys that are no fields, in theirs -/
structure Reports (es : Entries Value) (ps : List Problem) : Prop where
  once : (ps.map Problem.key).Nodup
  complete : ∀ key, key ∈ ps.map Problem.key ↔ ∃ v, (key, v) ∈ es ∧ ¬ IsAcceptable key v
  order : ∃ known, known.Sublist [contextKey, headerKey, indentKey] ∧
    ps.map Problem.key = known ++ es.keys.filter (· ∉ [contextKey, headerKey, indentKey])
  reasons : ∀ p ∈ ps, ∃ v, (p.key, v) ∈ es ∧ Refused p.key v p.refusal

theorem reports_problems (h : es.keys.Nodup) : Reports es (problems es) := by
  refine ⟨nodup_map_key_problems h, fun key => ?_, map_key_problems es, fun p hp => (mem_problems_iff h).1 hp⟩
  rw [List.mem_map]
  constructor
  · rintro ⟨p, hp, rfl⟩
    obtain ⟨v, hv, hr⟩ := (mem_problems_iff h).1 hp
    exact ⟨v, hv, not_isAcceptable_iff.2 ⟨p.refusal, hr⟩⟩
  · rintro ⟨v, hv, hrefused⟩
    obtain ⟨r, hr⟩ := not_isAcceptable_iff.1 hrefused
    exact ⟨⟨key, r⟩, (mem_problems_iff h).2 ⟨v, hv, hr⟩, rfl⟩

/-- outcomes with the same settings, or with the same problems in another order -/
def SameOutcome : Except (List Problem) (Settings Str) → Except (List Problem) (Settings Str) → Prop
  | .ok s, .ok t => s = t
  | .error ps, .error qs => ps.Perm qs
  | _, _ => False

theorem problems_perm (h : es.keys.Nodup) (hperm : es.Perm fs) : (problems es).Perm (problems fs) := by
  have hfs : fs.keys.Nodup := (hperm.map Prod.fst).nodup_iff.1 h
  have hnodup : ∀ {gs : Entries Value}, gs.keys.Nodup → (problems gs).Nodup :=
    fun hgs => (nodup_map_key_problems hgs).of_map _
  rw [List.perm_ext_iff_of_nodup (hnodup h) (hnodup hfs)]
  intro p
  rw [mem_problems_iff h, mem_problems_iff hfs]
  simp only [hperm.mem_iff]

/-- **The order of entries decides nothing** but the order in which unknown keys are reported. -/
theorem sameOutcome_of_perm (h : es.keys.Nodup) (hperm : es.Perm fs) : SameOutcome (ofEntries es) (ofEntries fs) := by
  have hproblems := problems_perm h hperm
  have haccepted : (∃ s, ofEntries es = .ok s) ↔ ∃ t, ofEntries fs = .ok t := by
    rw [exists_ofEntries_iff_problems, exists_ofEntries_iff_problems]
    exact ⟨fun hnil => List.nil_perm.1 (hnil ▸ hproblems), fun hnil => List.perm_nil.1 (hnil ▸ hproblems)⟩
  cases hes : ofEntries es with
  | ok s =>
    obtain ⟨t, ht⟩ := haccepted.1 ⟨s, hes⟩
    obtain ⟨_, _, _, hunknown⟩ := ofEntries_eq_ok.1 hes
    obtain ⟨_, _, _, hunknown'⟩ := ofEntries_eq_ok.1 ht
    have hget : ∀ key, es.get? key = fs.get? key := Entries.get?_eq_of_perm h hperm
    have hread : SameReading es fs :=
      ⟨contextField_readsOnly es fs (hget _), field_readsOnly headerKey defaultHeader es fs (hget _),
        field_readsOnly indentKey defaultIndent es fs (hget _), hunknown.trans hunknown'.symm⟩
    rw [← hread.ofEntries_eq, hes]
    rfl
  | error ps =>
    cases hfs : ofEntries fs with
    | ok t =>
      obtain ⟨s, hs⟩ := haccepted.2 ⟨t, hfs⟩
      cases hes.symm.trans hs
    | error qs =>
      rw [eq_problems_of_ofEntries hes, eq_problems_of_ofEntries hfs]
      exact hproblems

/-! ## Mappings -/

theorem ofValue_texts (es : Entries Value) :
    ofValue (.mapping (es.map fun e => (.text e.1, e.2))) = (ofEntries es).mapError .invalid := by
  rw [ofValue, textKeys_map_text]
  rfl

/-- only of texts entries are made -/
theorem eq_map_of_textKeys {ks : List (Key × Value)} (h : textKeys ks = .ok es) :
    ks = es.map fun e => (.text e.1, e.2) := by
  rw [textKeys] at h
  split_ifs at h
  have hentries := (forall₂_of_mapM h).imp (S := fun k e => k = (Key.text e.1, e.2)) ?_
  · rwa [← List.forall₂_map_right_iff, List.forall₂_eq_eq_eq] at hentries
  · rintro ⟨k, v⟩ e he
    cases k with
    | text k =>
      cases he
      rfl
    | _ => cases he

/-- nothing is validated if a key is a string but no text -/
theorem ofValue_of_unpaired {ks : List (Key × Value)} (hstrings : ∀ e ∈ ks, e.1 ≠ .other)
    (h : ∃ e ∈ ks, e.1 = .unpaired) : ofValue (.mapping ks) = .error .keyNotUnicode := by
  have hother : ¬ ∃ e ∈ ks, e.1 = .other := fun ⟨e, he, hkey⟩ => hstrings e he hkey
  rw [ofValue]
  cases hks : textKeys ks with
  | error f =>
    rw [eq_keyNotUnicode_of_textKeys hother hks]
    rfl
  | ok es =>
    obtain ⟨e, he, hkey⟩ := h
    rw [eq_map_of_textKeys hks] at he
    obtain ⟨d, _, rfl⟩ := List.mem_map.1 he
    cases hkey

/-- **Validation is exact and complete.** Entries are accepted if all their values are, and then the settings hold what
the values stand for, a header or indent that is no text as it is given; else there is one problem for each value that is
not. The order of the entries decides nothing but the order of the problems. A mapping whose keys are all texts has such
entries, and of the others with strings for keys none is validated. -/
theorem ofEntries_exact {es : Entries Value} (h : es.keys.Nodup) :
    ((∃ s, ofEntries es = .ok s) ↔ ∀ e ∈ es, IsAcceptable e.1 e.2) ∧
      (∀ s, ofEntries es = .ok s → Holds es s) ∧
      (∀ ps, ofEntries es = .error ps → Reports es ps) ∧
      (∀ fs, es.Perm fs → SameOutcome (ofEntries es) (ofEntries fs)) ∧
      ofValue (.mapping (es.map fun e => (.text e.1, e.2))) = (ofEntries es).mapError .invalid ∧
      ∀ ks, (∀ e ∈ ks, e.1 ≠ .other) → (∃ e ∈ ks, e.1 = .unpaired) → ofValue (.mapping ks) = .error .keyNotUnicode := by
  refine ⟨exists_ofEntries_iff_acceptable h, fun s => holds_of_ofEntries h, fun ps hps => ?_,
    fun fs => sameOutcome_of_perm h, ofValue_texts es, fun ks => ofValue_of_unpaired⟩
  rw [eq_problems_of_ofEntries hps]
  exact reports_problems h

/-- entries with a fault of every kind, the fields in another order than theirs -/
def faultyEntries : Entries Value :=
  [("x", .other .null), ("indent", .other .int), ("Context", .text "C"), ("header", .bytes [0xff]),
    ("context", .bytes [])]

theorem ofEntries_exact_faulty :
    faultyEntries.keys.Nodup ∧ ofEntries faultyEntries = .error
        [⟨"context", .tooShort⟩, ⟨"header", .notUnicode⟩, ⟨"indent", .notText⟩, ⟨"x", .unknownKey⟩,
          ⟨"Context", .unknownKey⟩] ∧
      (∃ e ∈ faultyEntries, ¬ IsAcceptable e.1 e.2) ∧ Reports faultyEntries (problems faultyEntries) ∧
      SameOutcome (ofEntries faultyEntries) (ofEntries faultyEntries.reverse) := by
  have hkeys : faultyEntries.keys.Nodup := by decide
  have hproblems : ofEntries faultyEntries = .error (problems faultyEntries) := by decide +kernel
  obtain ⟨hiff, _, hreports, hperm, _⟩ := ofEntries_exact hkeys
  refine ⟨hkeys, by decide +kernel, ?_, hreports _ hproblems, hperm _ faultyEntries.reverse_perm.symm⟩
  by_contra hnone
  obtain ⟨s, hs⟩ := hiff.2 fun e he => by_contra fun hrefused => hnone ⟨e, he, hrefused⟩
  rw [hproblems] at hs
  cases hs

/-- a context type with half a pair of surrogates is reported beside a key that is no field, although it is a string that
is not empty -/
theorem not_reports_decoded :
    ¬ ∀ (es : Entries Value) (ps : List Problem), es.keys.Nodup → ofEntries es = .error ps →
      ∀ p ∈ ps, ∃ v, (p.key, v) ∈ es ∧
        ¬ (p.key ∈ [contextKey, headerKey, indentKey] ∧ ∃ s, Decodes v s ∧ (p.key = contextKey → s ≠ .text "")) := by
  intro hclaim
  have herror : ofEntries [("context", .unpaired half), ("x", .other .int)] =
      .error [⟨"context", .notUnicode⟩, ⟨"x", .unknownKey⟩] := by decide
  obtain ⟨v, hv, hoffends⟩ := hclaim _ _ (by decide) herror _ List.mem_cons_self
  obtain rfl : v = .unpaired half := by simpa using hv
  exact hoffends ⟨List.mem_cons_self, .unpaired half, .unpaired half, fun _ => nofun⟩

end Settings

end SchemaTypings.Config
