/-
Which faults the text of a config file has.

Two faults are neither of a format nor of settings: a key that is no string, and a reading that breaks off, in a scalar or
for want of room on the stack.
`Settings.isUncaught_iff` says for which texts they come about, from one lemma for what a text holds (`valueOf_eq_error`)
and one for what is made of it (`ofValue_eq_error`). A text in JSON has neither of them.
-/
import SchemaTypings.Config.File
import SchemaTypings.Proofs.FirstFault

namespace SchemaTypings.Config

open SchemaTypings.Yaml (Breakdown)

/-! ## Keys -/

/-- a key that is no string is refused before any other -/
theorem textKeys_of_other {es : List (Key × Value)} (h : ∃ e ∈ es, e.1 = .other) :
    textKeys es = .error .keyNotText := by
  obtain ⟨e, he, hother⟩ := h
  have hany : (es.any fun e => decide (e.1 = .other)) = true := List.any_eq_true.2 ⟨e, he, decide_eq_true hother⟩
  rw [textKeys, if_pos hany]

/-- of strings only those are refused that are no texts -/
theorem eq_keyNotUnicode_of_textKeys {es : List (Key × Value)} (h : ¬ ∃ e ∈ es, e.1 = .other) {f : FileFault}
    (hf : textKeys es = .error f) : f = .keyNotUnicode := by
  have hany : (es.any fun e => decide (e.1 = .other)) = false := by
    refine List.any_eq_false.2 ?_
    intro e he hother
    exact h ⟨e, he, of_decide_eq_true hother⟩
  rw [textKeys, hany, if_neg Bool.false_ne_true] at hf
  obtain ⟨⟨k, v⟩, _, hkey⟩ := exists_of_mapM_eq_error hf
  cases k with
  | text k => cases hkey
  | unpaired => exact (Except.error.inj hkey).symm
  | other => exact (Except.error.inj hkey).symm

/-! ## Values -/

/-- whether a fault is one of a format or of settings: not a key that is no string, nor a reading that breaks off -/
def FileFault.isExpected : FileFault → Bool
  | .keyNotText => false
  | .breakdown _ => false
  | _ => true

namespace Settings

/-- why what a file holds is refused -/
theorem ofValue_eq_error {v : FileValue} {f : FileFault} (h : ofValue v = .error f) :
    (f = .keyNotText ∧ ∃ es, v = .mapping es ∧ ∃ e ∈ es, e.1 = .other) ∨ f.isExpected = true := by
  cases v with
  | value v =>
    rw [ofValue] at h
    by_cases hnull : v.isNull = true
    · rw [if_pos hnull] at h
      cases h
    · rw [if_neg hnull] at h
      cases h
      exact .inr rfl
  | mapping es =>
    rw [ofValue] at h
    by_cases hother : ∃ e ∈ es, e.1 = .other
    · rw [textKeys_of_other hother] at h
      cases h
      exact .inl ⟨rfl, es, rfl, hother⟩
    · cases hes : textKeys es with
      | error g =>
        rw [hes] at h
        cases h
        obtain rfl := eq_keyNotUnicode_of_textKeys hother hes
        exact .inr rfl
      | ok entries =>
        rw [hes] at h
        have hentries : (ofEntries entries).mapError FileFault.invalid = .error f := h
        cases hs : ofEntries entries with
        | error ps =>
          rw [hs] at hentries
          cases hentries
          exact .inr rfl
        | ok s =>
          rw [hs] at hentries
          cases hentries

section

variable [Yaml.Stack]

/-- why a text has no value -/
theorem valueOf_eq_error {format : Format} {text : List Char} {f : FileFault} (h : valueOf format text = .error f) :
    (∃ b, f = .breakdown b) ∨ f.isExpected = true := by
  cases format with
  | json =>
    rw [valueOf] at h
    cases hread : Json.read? text with
    | some j =>
      rw [hread] at h
      cases h
    | none =>
      rw [hread] at h
      cases h
      exact .inr rfl
  | yaml =>
    rw [valueOf] at h
    cases hvalue : FileValue.ofYaml text with
    | ok v =>
      rw [hvalue] at h
      cases h
    | error g =>
      rw [hvalue] at h
      cases h
      cases g with
      | illFormed => exact .inr rfl
      | breakdown b => exact .inl ⟨b, rfl⟩

/-! ## Texts -/

/-- whether the reading of a text breaks off, or the text is a mapping with a key that is no string -/
def IsUncaught (format : Format) (text : List Char) : Prop :=
  (∃ b, valueOf format text = .error (.breakdown b)) ∨
    ∃ es, valueOf format text = .ok (.mapping es) ∧ ∃ e ∈ es, e.1 = .other

/-- **Which faults are not expected**: just those of readings that break off and of keys that are no strings. -/
theorem isUncaught_iff {format : Format} {text : List Char} :
    IsUncaught format text ↔ ∃ f, ofText format text = .error f ∧ f.isExpected = false := by
  constructor
  · rintro (⟨b, hvalue⟩ | ⟨es, hvalue, hother⟩)
    · exact ⟨.breakdown b, by rw [ofText, hvalue]; rfl, rfl⟩
    · refine ⟨.keyNotText, ?_, rfl⟩
      rw [ofText, hvalue]
      show ofValue (.mapping es) = _
      rw [ofValue, textKeys_of_other hother]
      rfl
  · rintro ⟨f, hf, hexpected⟩
    rw [ofText] at hf
    cases hvalue : valueOf format text with
    | error g =>
      rw [hvalue] at hf
      cases hf
      rcases valueOf_eq_error hvalue with ⟨b, rfl⟩ | hexpected'
      · exact .inl ⟨b, hvalue⟩
      · rw [hexpected'] at hexpected
        cases hexpected
    | ok v =>
      rw [hvalue] at hf
      rcases ofValue_eq_error hf with ⟨_, es, rfl, hother⟩ | hexpected'
      · exact .inr ⟨es, hvalue, hother⟩
      · rw [hexpected'] at hexpected
        cases hexpected

/-- keys of a JSON document are strings, and nothing in it breaks off -/
theorem not_isUncaught_json (text : List Char) : ¬ IsUncaught .json text := by
  unfold IsUncaught valueOf
  cases Json.read? text with
  | none => simp
  | some j =>
    rintro (⟨b, hvalue⟩ | ⟨es, hvalue, e, he, hother⟩)
    · cases hvalue
    · have hes : FileValue.ofJson j = .mapping es := Except.ok.inj hvalue
      cases j with
      | object entries =>
        cases hes
        obtain ⟨entry, _, rfl⟩ := List.mem_map.1 he
        cases hother
      | unkeyed =>
        cases hes
        obtain rfl := List.mem_singleton.1 he
        cases hother
      | _ => cases hes

end

end Settings

end SchemaTypings.Config
