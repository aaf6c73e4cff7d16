/-
Settings are loaded as they were saved.

A config file is written as the text of its format in UTF-8. What is loaded is the text that is found at the same path
(`Tree.read_of_write`), in which line ends are LF already, and the settings are read back from it
(`Config.Settings.ofText_toText_yaml`, `Config.Settings.ofText_toText_json`). In YAML this is so of all strings; in JSON of
texts, since two halves that make a pair are read as one character there.
-/
import SchemaTypings.Proofs.Config.SavedText
import SchemaTypings.Proofs.Workspace.Tree
import SchemaTypings.Proofs.Workspace.Work

namespace SchemaTypings.Workspace

open SchemaTypings.Config (Settings)
open SchemaTypings.Text (Str)

/-- settings are loaded as they were saved, if their text has no CR and is read back in its format -/
theorem loadSettings_of_saveSettings [Yaml.Stack] {s : Settings Str} {path : String} {t t' : Tree}
    (hend : '\r' ∉ s.toText (formatOf path))
    (htext : Settings.ofText (formatOf path) (s.toText (formatOf path)) = .ok s)
    (h : (saveSettings s path : Work Unit) t = (.ok (), t')) :
    (loadSettings path : Work (Settings Str)) t' = (.ok s, t') := by
  have hread := Tree.read_of_write (saveSettings_eq_ok h)
  have hsettings : settingsOf (showPath path) (s.toText (formatOf path)) = .ok s := by
    rw [settingsOf, formatOf_showPath, htext, Except.mapError]
  rw [loadSettings_apply, hread]
  simp [decode_encode hend, hsettings]

/-- **Settings that are saved in YAML are loaded again**, whatever characters they have, at every path where they can
be saved. -/
theorem loadSettings_saveSettings_yaml [Yaml.Stack] (s : Settings Str) (path : String) (t t' : Tree)
    (hsuffix : (Path.ofText path).suffix = ".yaml" ∨ (Path.ofText path).suffix = ".yml")
    (hsave : (saveSettings s path : Work Unit) t = (.ok (), t')) :
    (loadSettings path : Work (Settings Str)) t' = (.ok s, t') := by
  have hformat := formatOf_eq_yaml hsuffix
  refine loadSettings_of_saveSettings ?_ ?_ hsave
  · rw [hformat]
    intro hmem
    exact Yaml.ne_of_isBasic (s.isBasic_of_mem_toText_yaml _ hmem) (d := '\r') rfl rfl
  · rw [hformat]
    exact s.ofText_toText_yaml

/-- a context that looks like null, a header with quotes and line ends of several kinds, and an indent of blanks -/
def awkward : Settings Str := ⟨"null", .text "# it's \"so\"\r\n\u0085 \u2028", .text "  ", by decide⟩

def confTree : Tree := ⟨[(["conf"], .directory)]⟩

/-- the tree with the settings in a file of that directory -/
def savedTree : Tree := confTree.put ["conf", "a.yml"] (.file (encode (String.ofList (awkward.toText .yaml))))

theorem loadSettings_saveSettings_awkward :
    (saveSettings awkward "conf/./a.yml" : Work Unit) confTree = (.ok (), savedTree) ∧
      (loadSettings "conf/./a.yml" : Work (Settings Str)) savedTree = (.ok awkward, savedTree) := by
  have hsuffix : (Path.ofText "conf/./a.yml").suffix = ".yml" := rfl
  have hsave : (saveSettings awkward "conf/./a.yml" : Work Unit) confTree = (.ok (), savedTree) := by
    have hshow : showPath "conf/./a.yml" = "conf/a.yml" := rfl
    have hplace : confTree.filePlace "conf/a.yml" = .ok ["conf", "a.yml"] := rfl
    have hformat := formatOf_eq_yaml (.inr hsuffix)
    rw [saveSettings_apply, hshow, hformat, Tree.write, hplace]
    rfl
  exact ⟨hsave, loadSettings_saveSettings_yaml awkward "conf/./a.yml" confTree savedTree (.inr hsuffix) hsave⟩

/-- **Settings that are saved in JSON are loaded again**, whatever characters they have, at every path where they can
be saved whose suffix is not that of a YAML file in just these letters. -/
theorem loadSettings_saveSettings_json [Yaml.Stack] (s : Settings) (path : String) (t t' : Tree)
    (hsuffix : (Path.ofText path).suffix ≠ ".yaml" ∧ (Path.ofText path).suffix ≠ ".yml")
    (hsave : (saveSettings s.strings path : Work Unit) t = (.ok (), t')) :
    (loadSettings path : Work (Settings Str)) t' = (.ok s.strings, t') := by
  have hformat := formatOf_eq_json hsuffix
  refine loadSettings_of_saveSettings ?_ ?_ hsave
  · rw [hformat]
    intro hmem
    have hwritten : Json.isWritten '\r' = true := s.strings.isWritten_of_mem_toText_json _ hmem
    exact absurd hwritten (by decide)
  · rw [hformat, s.toText_strings]
    exact s.ofText_toText_json

/-- a context with a slash, a quote and a backslash, a header of a NUL, a CR LF and characters beyond ASCII, and an
indent of a character beyond the first plane and one that is written as it is -/
def wideSettings : Settings := ⟨"a/\"\\b", "\u0000\r\n\uFFFD\u2028", "😀\x7F", by decide⟩

/-- the tree with the settings in a file whose name is a suffix -/
def dottedTree : Tree := confTree.put ["conf", ".yaml"] (.file (encode (String.ofList (wideSettings.strings.toText .json))))

theorem loadSettings_saveSettings_dotted :
    (saveSettings wideSettings.strings "conf//.yaml" : Work Unit) confTree = (.ok (), dottedTree) ∧
      (loadSettings "conf//.yaml" : Work (Settings Str)) dottedTree = (.ok wideSettings.strings, dottedTree) := by
  have hsuffix : (Path.ofText "conf//.yaml").suffix ≠ ".yaml" ∧ (Path.ofText "conf//.yaml").suffix ≠ ".yml" := by
    decide
  have hsave : (saveSettings wideSettings.strings "conf//.yaml" : Work Unit) confTree = (.ok (), dottedTree) := by
    have hshow : showPath "conf//.yaml" = "conf/.yaml" := rfl
    have hplace : confTree.filePlace "conf/.yaml" = .ok ["conf", ".yaml"] := rfl
    rw [saveSettings_apply, hshow, formatOf_eq_json hsuffix, Tree.write, hplace]
    rfl
  exact ⟨hsave, loadSettings_saveSettings_json wideSettings "conf//.yaml" confTree dottedTree hsuffix hsave⟩

end SchemaTypings.Workspace
