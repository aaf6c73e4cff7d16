/-
Saved settings are read the same on every platform.

What is written is plain ASCII without CR, in either format and whatever characters the settings have (`isAscii_toText`).
So it does not matter in which encoding that extends ASCII a platform writes and reads files, nor what it writes at the
ends of lines: the file has the same bytes, but for those line ends, and its text is read back.
-/
import SchemaTypings.Proofs.Text.Charset
import SchemaTypings.Proofs.Workspace.SavedSettings

namespace SchemaTypings.Workspace

open SchemaTypings.Config (Settings Format)
open SchemaTypings.Text

/-- what is written of settings is ASCII without CR -/
theorem isAscii_toText (s : Settings Str) (format : Format) : ∀ c ∈ s.toText format, c.toNat < 0x80 ∧ c ≠ '\r' := by
  intro c hc
  cases format with
  | yaml =>
    have hbasic := s.isBasic_of_mem_toText_yaml c hc
    refine ⟨?_, Yaml.ne_of_isBasic hbasic rfl⟩
    by_cases hlf : c = '\n'
    · rw [hlf]
      decide
    · have hprintable := Yaml.isAsciiPrintable_of_isBasic hbasic hlf
      rw [Yaml.isAsciiPrintable, Bool.and_eq_true, decide_eq_true_eq, decide_eq_true_eq] at hprintable
      have hle : c.toNat ≤ '~'.toNat := hprintable.2
      exact Nat.lt_of_le_of_lt hle (by decide)
  | json =>
    have hwritten := s.isWritten_of_mem_toText_json c hc
    rw [Json.isWritten, Bool.or_eq_true, Bool.and_eq_true, decide_eq_true_eq, decide_eq_true_eq, decide_eq_true_eq]
      at hwritten
    rcases hwritten with rfl | ⟨hlow, hhigh⟩
    · decide
    · refine ⟨hhigh, ?_⟩
      rintro rfl
      exact absurd hlow (by decide)

/-- **Saved settings do not depend on the platform.** A file of settings has ASCII characters only, and no CR. Its bytes
are the same in every encoding that extends ASCII. If it is written in one such encoding, with any of the line ends, and
read in another, its text is read back. -/
theorem saveSettings_portable {s : Settings Str} {path : String} {t t' : Tree}
    (h : (saveSettings s path : Work Unit) t = (.ok (), t')) :
    let text := s.toText (formatOf path)
    let content := encode (String.ofList text)
    t'.read (showPath path) = .ok content ∧ (∀ c ∈ text, c.toNat < 0x80 ∧ c ≠ '\r') ∧
      (∀ charset : Charset, charset.ExtendsAscii → charset.encode text = some content) ∧
      ∀ writing reading : Charset, writing.ExtendsAscii → reading.ExtendsAscii → ∀ e ∈ Line.ends,
        ∃ bytes, writing.encode (Line.ended e text) = some bytes ∧
          (reading.decode bytes).map Line.unify = some text := by
  intro text content
  have hplain : ∀ c ∈ text, c.toNat < 0x80 ∧ c ≠ '\r' := isAscii_toText s (formatOf path)
  have hascii : IsAscii text := fun c hc => (hplain c hc).1
  have hend : '\r' ∉ text := fun hmem => (hplain '\r' hmem).2 rfl
  refine ⟨Tree.read_of_write (saveSettings_eq_ok h), hplain, ?_, ?_⟩
  · intro charset hcharset
    rw [hcharset.encode hascii, ← Charset.toUTF8_of_isAscii hascii]
    rfl
  · intro writing reading hwriting hreading e he
    have hended := Line.isAscii_ended he hascii
    refine ⟨_, hwriting.encode hended, ?_⟩
    rw [hreading.decode hended, Option.map_some, Line.unify_ended he hend]

/-- settings of all kinds of characters, written in UTF-8 with CR LF and read in Latin-1 -/
theorem saveSettings_portable_wide :
    ∃ t', (saveSettings wideSettings.strings "conf/b.yml" : Work Unit) confTree = (.ok (), t') ∧
      ∃ bytes, Charset.utf8.encode (Line.ended ['\r', '\n'] (wideSettings.strings.toText (formatOf "conf/b.yml"))) =
          some bytes ∧
        (Charset.latin1.decode bytes).map Line.unify = some (wideSettings.strings.toText (formatOf "conf/b.yml")) := by
  have hplace : confTree.filePlace (showPath "conf/b.yml") = .ok ["conf", "b.yml"] := rfl
  obtain ⟨t', hsave⟩ : ∃ t', (saveSettings wideSettings.strings "conf/b.yml" : Work Unit) confTree = (.ok (), t') := by
    rw [saveSettings_apply, Tree.write, hplace]
    exact ⟨_, rfl⟩
  obtain ⟨_, _, _, hback⟩ := saveSettings_portable hsave
  have hends : ['\r', '\n'] ∈ Line.ends := by decide
  exact ⟨t', hsave, hback _ _ Charset.extendsAscii_utf8 Charset.extendsAscii_latin1 _ hends⟩

end SchemaTypings.Workspace
