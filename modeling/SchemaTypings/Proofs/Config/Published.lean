/-
Which objects the published description of config files describes.

An object satisfies it if and only if its three fields, as far as they are there, are strings, the context type is not
empty, and there is no other key (`satisfies_document_iff`). These are the objects that are accepted as settings, but for
one thing: a context type with half a pair of surrogates is a string that is not empty, and it is refused
(`exists_ofValue_iff`). The description is read back from its text, on one line or indented (`read?_text`).
-/
import SchemaTypings.Config.Published
import SchemaTypings.Proofs.Config.Overrides
import SchemaTypings.Proofs.Json.Schema

namespace SchemaTypings.Config

open SchemaTypings.Json (Satisfies HasAt HasBeside)

namespace Published

/-! ## The text -/

theorem reads_field (title fallback : String) {least : Option Nat} (h : ∀ n ∈ least, n < Json.wordLimit) (levels : Nat) :
    Json.Reads (levels + 1) (field title fallback least) := by
  cases least with
  | none =>
    have hkeys : ["default", "title", "type"].Nodup := by decide
    refine .object hkeys ?_
    simp only [Option.toList_none, List.map_nil, List.append_nil, List.cons_append, List.nil_append, List.forall_mem_cons]
    exact ⟨.string _, .string _, .string _, List.forall_mem_nil _⟩
  | some n =>
    have hkeys : ["default", "minLength", "title", "type"].Nodup := by decide
    refine .object hkeys ?_
    simp only [Option.toList_some, List.map_cons, List.map_nil, List.cons_append, List.nil_append, List.forall_mem_cons]
    exact ⟨.string _, .int (h n rfl), .string _, .string _, List.forall_mem_nil _⟩

theorem reads_document : Json.Reads Json.levelLimit document := by
  have hleast : ∀ n ∈ some 1, n < Json.wordLimit := by decide
  have hnone : ∀ n ∈ (none : Option Nat), n < Json.wordLimit := nofun
  have hfields : [Settings.contextKey, Settings.headerKey, Settings.indentKey].Nodup := by decide
  have hkeys : ["additionalProperties", "description", "properties", "title", "type"].Nodup := by decide
  refine .object hkeys ?_
  simp only [List.forall_mem_cons]
  refine ⟨.bool _, .string _, .object hfields ?_, .string _, .string _, List.forall_mem_nil _⟩
  simp only [List.forall_mem_cons]
  exact ⟨reads_field _ _ hleast _, reads_field _ _ hnone _, reads_field _ _ hnone _, List.forall_mem_nil _⟩

/-- the description is read back from its text -/
@[simp]
theorem read?_text (pretty : Bool) : Json.read? (text pretty) = some document := Json.read?_write reads_document _

/-! ## What it describes -/

theorem satisfies_field_iff {title fallback : String} {least : Option Nat} {j : Json} :
    Satisfies (field title fallback least) j ↔
      j.typeName = "string" ∧ ∀ m ∈ least, ∀ n, j.length? = some n → m ≤ n := by
  cases least with
  | none => simp [field, Satisfies, Json.SatisfiesKeywords, eq_comm]
  | some m => simp [field, Satisfies, Json.SatisfiesKeywords, eq_comm, and_comm]

def fieldKeys : List String := [Settings.contextKey, Settings.headerKey, Settings.indentKey]

/-- **What the description says** of an object: that the fields are its only keys, that they are strings, and that the
first one is not empty. -/
theorem satisfies_document_iff {j : Json} :
    Satisfies document j ↔ (∀ v, ¬ HasBeside fieldKeys j v) ∧
      ((∀ v, HasAt Settings.contextKey j v → v.typeName = "string" ∧ ∀ n, v.length? = some n → 1 ≤ n) ∧
        (∀ v, HasAt Settings.headerKey j v → v.typeName = "string") ∧
        ∀ v, HasAt Settings.indentKey j v → v.typeName = "string") ∧
      j.typeName = "object" := by
  rw [document, Satisfies]
  -- the keys beside which there may be none are those of the properties
  change Json.SatisfiesKeywords fieldKeys _ j ↔ _
  simp [Json.SatisfiesKeywords, Json.SatisfiesProperties, Json.SatisfiesEntries, satisfies_field_iff, Satisfies, eq_comm]

end Published

/-! ## What is accepted -/

def valuesOf (es : Entries Json) : Entries Value := es.map fun e => (e.1, Value.ofJson e.2)

theorem get?_valuesOf (es : Entries Json) (key : String) : (valuesOf es).get? key = (es.get? key).map Value.ofJson := by
  induction es with
  | nil => rfl
  | cons e es ih =>
    have hcons : valuesOf (e :: es) = (e.1, Value.ofJson e.2) :: valuesOf es := rfl
    rw [Entries.get?] at ih
    rw [hcons, Entries.get?, Entries.get?, List.lookup_cons, List.lookup_cons, ih]
    cases key == e.1 <;> rfl

theorem ofValue_ofJson_object (es : Entries Json) :
    Settings.ofValue (.ofJson (.object es)) = (Settings.ofEntries (valuesOf es)).mapError .invalid := by
  have hkeys := textKeys_map_text (valuesOf es)
  rw [valuesOf, List.map_map] at hkeys
  exact congrArg (·.bind fun vs => (Settings.ofEntries vs).mapError .invalid) hkeys

/-- a document stands for a string if and only if it is one -/
theorem exists_str?_iff {j : Json} : (∃ s, (Value.ofJson j).str? = .ok s) ↔ j.typeName = "string" := by
  cases j with
  | string s => exact ⟨fun _ => rfl, fun _ => ⟨.text s, rfl⟩⟩
  | unpaired u => exact ⟨fun _ => rfl, fun _ => ⟨.unpaired u, rfl⟩⟩
  | _ => simp [Value.ofJson, Value.str?, Json.typeName]

namespace Settings

variable {es : Entries Json}

theorem exists_field_iff {key fallback : String} :
    (∃ s, field (valuesOf es) key fallback = .ok s) ↔ ∀ j, es.get? key = some j → j.typeName = "string" := by
  rw [field, get?_valuesOf]
  cases es.get? key with
  | none => simp
  | some j => simpa using exists_str?_iff

/-- the context type has to be a string that is not empty, and a text -/
theorem exists_contextField_iff :
    (∃ c, contextField (valuesOf es) = .ok c) ↔
      (∀ j, es.get? contextKey = some j → j.typeName = "string" ∧ ∀ n, j.length? = some n → 1 ≤ n) ∧
        ∀ u, es.get? contextKey ≠ some (.unpaired u) := by
  rw [contextField, field, get?_valuesOf]
  cases es.get? contextKey with
  | none =>
    have hdefault : defaultContext ≠ "" := by decide
    simp [hdefault]
  | some j =>
    cases j with
    | string s =>
      by_cases hs : s = "" <;>
        simp [Value.ofJson, Value.str?, Json.typeName, Json.length?, Nat.one_le_iff_ne_zero, hs]
    | unpaired u => simp [Value.ofJson, Value.str?]
    | _ => simp [Value.ofJson, Value.str?, Json.typeName]

/-- entries are accepted if each field can be read and no other key is there -/
theorem exists_ofEntries_iff {vs : Entries Value} :
    (∃ s, ofEntries vs = .ok s) ↔ (∃ c, contextField vs = .ok c) ∧ (∃ h, field vs headerKey defaultHeader = .ok h) ∧
      (∃ i, field vs indentKey defaultIndent = .ok i) ∧ unknown vs = [] := by
  constructor
  · rintro ⟨s, hs⟩
    obtain ⟨hc, hh, hi, hunknown⟩ := ofEntries_eq_ok.1 hs
    exact ⟨⟨_, hc⟩, ⟨_, hh⟩, ⟨_, hi⟩, hunknown⟩
  · rintro ⟨⟨⟨c, hne⟩, hc⟩, ⟨h, hh⟩, ⟨i, hi⟩, hunknown⟩
    exact ⟨⟨c, h, i, hne⟩, ofEntries_eq_ok.2 ⟨hc, hh, hi, hunknown⟩⟩

theorem isUnknown_iff {key : String} : isUnknown key = true ↔ key ∉ Published.fieldKeys := by
  simp [isUnknown, Published.fieldKeys]

theorem unknown_valuesOf_iff : unknown (valuesOf es) = [] ↔ ∀ v, ¬ HasBeside Published.fieldKeys (.object es) v := by
  constructor
  · rintro hnone v ⟨key, hkey, hmem⟩
    have hvalue : (key, Value.ofJson v) ∈ valuesOf es := List.mem_map.2 ⟨(key, v), hmem, rfl⟩
    exact List.filter_eq_nil_iff.1 hnone _ hvalue (isUnknown_iff.2 hkey)
  · intro hnone
    refine List.filter_eq_nil_iff.2 fun e he hunknown => ?_
    obtain ⟨⟨key, v⟩, hmem, rfl⟩ := List.mem_map.1 he
    exact hnone v ⟨key, isUnknown_iff.1 hunknown, hmem⟩

end Settings

/-- whether a document is an object whose context type has half a pair of surrogates -/
def HasUnpairedContext (j : Json) : Prop :=
  ∃ es u, j = .object es ∧ Entries.get? es Settings.contextKey = some (.unpaired u)

/-- **What is accepted as settings**: the objects that the description describes, but for those whose context type has half
a pair of surrogates. -/
theorem exists_ofValue_iff {j : Json} (hj : j.typeName = "object") :
    (∃ s, Settings.ofValue (.ofJson j) = .ok s) ↔ Satisfies Published.document j ∧ ¬ HasUnpairedContext j := by
  rw [Published.satisfies_document_iff]
  cases j with
  | object es =>
    have hentries : (∃ s, Settings.ofValue (.ofJson (.object es)) = .ok s) ↔
        ∃ s, Settings.ofEntries (valuesOf es) = .ok s := by
      rw [ofValue_ofJson_object]
      cases Settings.ofEntries (valuesOf es) with
      | error ps => exact ⟨fun ⟨_, h⟩ => (nomatch h), fun ⟨_, h⟩ => (nomatch h)⟩
      | ok s => exact ⟨fun _ => ⟨s, rfl⟩, fun _ => ⟨s, rfl⟩⟩
    have hcontext : ¬ HasUnpairedContext (.object es) ↔ ∀ u, Entries.get? es Settings.contextKey ≠ some (.unpaired u) :=
      ⟨fun h u hget => h ⟨es, u, rfl, hget⟩, fun h ⟨_, u, hes, hget⟩ => h u (Json.object.inj hes ▸ hget)⟩
    rw [hentries, Settings.exists_ofEntries_iff, Settings.exists_contextField_iff, Settings.exists_field_iff,
      Settings.exists_field_iff, Settings.unknown_valuesOf_iff, hcontext]
    constructor
    · rintro ⟨⟨hc, hpaired⟩, hh, hi, hbeside⟩
      exact ⟨⟨hbeside, ⟨hc, hh, hi⟩, rfl⟩, hpaired⟩
    · rintro ⟨⟨hbeside, ⟨hc, hh, hi⟩, _⟩, hpaired⟩
      exact ⟨⟨hc, hpaired⟩, hh, hi, hbeside⟩
  | unkeyed =>
    have hbeside : HasBeside Published.fieldKeys .unkeyed .null := trivial
    exact ⟨fun ⟨_, h⟩ => (nomatch h), fun h => absurd hbeside (h.1.1 .null)⟩
  | _ => exact absurd hj (by simp [Json.typeName])

end SchemaTypings.Config
