/-
Settings are read back from the text of a config file.

A YAML text is a mapping of three keys, which are words that no value could be taken for (`isKey_keys`, `ofPlain_keys`);
whatever settings hold is a string in quotes or a plain scalar that looks like a text. A JSON text is an object with the
same keys and three strings. Both hold the same entries, and these are the settings (`ofValue_textEntries`). In JSON this
is said of texts only, since two halves that make a pair are read as one character there.
-/
import SchemaTypings.Config.File
import SchemaTypings.Proofs.Config.TextMapping
import SchemaTypings.Proofs.Json.RoundTrip

namespace SchemaTypings.Config

open SchemaTypings.Text
open SchemaTypings.Yaml

/-! ## Entries -/

/-- texts that are keys stay the keys of their values -/
@[simp]
theorem textKeys_map_text (es : Entries Value) : textKeys (es.map fun e => (.text e.1, e.2)) = .ok es := by
  have hkeys : ((es.map fun e => (Key.text e.1, e.2)).any fun e => decide (e.1 = .other)) = false := by simp
  rw [textKeys, hkeys, if_neg Bool.false_ne_true]
  induction es with
  | nil => rfl
  | cons e es ih =>
    rw [List.map_cons, List.mapM_cons, ih (by simp)]
    rfl

theorem textKeys_textEntry (es : List (String × Str)) :
    textKeys (es.map textEntry) = .ok (es.map fun e => (e.1, Value.ofStr e.2)) := by
  have hkeys := textKeys_map_text (es.map fun e => (e.1, Value.ofStr e.2))
  rwa [List.map_map] at hkeys

@[simp]
theorem str?_ofStr (s : Str) : (Value.ofStr s).str? = .ok s := by
  cases s <;> rfl

namespace Settings

/-- of three strings the context alone can be refused -/
theorem ofEntries_strings (context header indent : Str) :
    ofEntries [(contextKey, .ofStr context), (headerKey, .ofStr header), (indentKey, .ofStr indent)] =
      match context with
      | .unpaired _ => .error [⟨contextKey, .notUnicode⟩]
      | .text c => if h : c = "" then .error [⟨contextKey, .tooShort⟩] else .ok ⟨c, header, indent, h⟩ := by
  have hheader : field [(contextKey, .ofStr context), (headerKey, .ofStr header), (indentKey, .ofStr indent)] headerKey
      defaultHeader = .ok header := str?_ofStr header
  have hindent : field [(contextKey, .ofStr context), (headerKey, .ofStr header), (indentKey, .ofStr indent)] indentKey
      defaultIndent = .ok indent := str?_ofStr indent
  have hunknown : unknownKeys [(contextKey, .ofStr context), (headerKey, .ofStr header), (indentKey, .ofStr indent)] = [] := by
    simp [unknownKeys]
  rw [ofEntries, problems, hheader, hindent, hunknown]
  cases context with
  | unpaired u => rfl
  | text c =>
    have hcontext : contextField [(contextKey, .ofStr (.text c)), (headerKey, .ofStr header), (indentKey, .ofStr indent)] =
        if h : c = "" then .error .tooShort else .ok ⟨c, h⟩ := rfl
    rw [hcontext]
    dsimp only
    split_ifs <;> rfl

/-- the entries of settings are accepted, and give the settings -/
theorem ofEntries_entries (s : Settings Str) : ofEntries s.entries = .ok s :=
  (ofEntries_strings (.text s.context) s.header s.indent).trans (dif_neg s.context_ne)

/-! ## Keys -/

/-- the fields as entries of strings -/
def textEntries (s : Settings Str) : List (String × Str) :=
  [(contextKey, .text s.context), (headerKey, s.header), (indentKey, s.indent)]

theorem isKey_keys (s : Settings Str) : ∀ e ∈ s.textEntries, Scan.IsKey e.1.toList := by
  have hall : ∀ key ∈ [contextKey, headerKey, indentKey], Scan.IsKey key.toList := by
    intro key hkey
    have hfacts : ∀ key ∈ [contextKey, headerKey, indentKey],
        key.toList ≠ [] ∧ key.toList.all Scan.isKeyLetter = true ∧ key.toList.length ≤ Scan.keyLimit := by decide
    obtain ⟨hne, hletters, hshort⟩ := hfacts key hkey
    exact ⟨hne, List.all_eq_true.1 hletters, hshort⟩
  intro e he
  exact hall e.1 (List.mem_map_of_mem (f := Prod.fst) he)

theorem ofPlain_keys (s : Settings Str) : ∀ e ∈ s.textEntries, Tag.ofPlain e.1.toList = .text := by
  have hall : ∀ key ∈ [contextKey, headerKey, indentKey], Tag.ofPlain key.toList = .text := by decide +kernel
  intro e he
  exact hall e.1 (List.mem_map_of_mem (f := Prod.fst) he)

theorem nodup_keys (s : Settings Str) : (s.textEntries.map (·.1)).Nodup := by
  show [contextKey, headerKey, indentKey].Nodup
  decide

/-- what a file with the entries of settings holds is the settings -/
theorem ofValue_textEntries (s : Settings Str) : ofValue (.mapping (s.textEntries.map textEntry)) = .ok s := by
  have hentries : s.textEntries.map (fun e => (e.1, Value.ofStr e.2)) = s.entries := rfl
  calc ofValue (.mapping (s.textEntries.map textEntry)) = (ofEntries s.entries).mapError .invalid := by
        rw [ofValue, textKeys_textEntry, hentries]
        rfl
    _ = .ok s := by rw [ofEntries_entries]; rfl

/-! ## YAML -/

theorem toText_yaml (s : Settings Str) : s.toText .yaml = writeEntries s.textEntries := by
  simp [toText, writeEntries, textEntries]

theorem isBasic_of_mem_toText_yaml (s : Settings Str) : ∀ c ∈ s.toText .yaml, isBasic c = true := by
  rw [toText_yaml]
  exact isBasic_of_mem_writeEntries s.isKey_keys

/-- **A YAML text keeps the settings**, whatever characters they have, and halves of pairs among them. -/
theorem ofText_toText_yaml [Stack] (s : Settings Str) : ofText .yaml (s.toText .yaml) = .ok s := by
  have hne : s.textEntries ≠ [] := List.cons_ne_nil _ _
  obtain ⟨ts, hts, htokens⟩ := tokens_writeEntries hne s.isKey_keys
  obtain ⟨g, ps, hdocument, hmapping⟩ := document_of_entryTokens hts s.ofPlain_keys
  have hvalue : FileValue.ofYaml (s.toText .yaml) = .ok (.mapping (s.textEntries.map textEntry)) := by
    rw [toText_yaml, FileValue.ofYaml, htokens]
    show ((document (.blockMapping :: ts ++ [.blockEnd])).bind _) = _
    rw [hdocument]
    exact ofDocument_of_isTextMapping hmapping s.nodup_keys
  calc ofText .yaml (s.toText .yaml) = ofValue (.mapping (s.textEntries.map textEntry)) := by
        rw [ofText, valueOf, hvalue]
        rfl
    _ = .ok s := s.ofValue_textEntries

/-! ## Texts -/

/-- texts are written as they are among strings -/
@[simp]
theorem toText_strings (s : Settings) (format : Format) : s.strings.toText format = s.toText format := by
  cases format <;> rfl

/-! ## JSON -/

theorem isWritten_of_mem_toText_json (s : Settings Str) : ∀ c ∈ s.toText .json, Json.isWritten c = true :=
  Json.isWritten_of_mem_write (some jsonStep) s.textEntries

theorem reads_toJson (s : Settings) : Json.Reads Json.levelLimit s.toJson := by
  have hkeys : [contextKey, headerKey, indentKey].Nodup := by decide
  refine .object hkeys ?_
  simp only [List.forall_mem_cons]
  exact ⟨.string _, .string _, .string _, List.forall_mem_nil _⟩

/-- **A JSON text keeps the settings**, whatever characters they have. -/
theorem ofText_toText_json [Stack] (s : Settings) : ofText .json (s.toText .json) = .ok s.strings := by
  have hread : Json.read? (s.toText .json) = some s.toJson := Json.read?_write s.reads_toJson (some jsonStep)
  have hvalue : valueOf .json (s.toText .json) = .ok (.mapping (s.strings.textEntries.map textEntry)) := by
    rw [valueOf, hread]
    rfl
  calc ofText .json (s.toText .json) = ofValue (.mapping (s.strings.textEntries.map textEntry)) := by
        rw [ofText, hvalue]
        rfl
    _ = .ok s.strings := s.strings.ofValue_textEntries

end Settings

end SchemaTypings.Config
