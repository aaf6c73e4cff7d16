/-
What work on files does to a tree.

Each operation is an equation for its outcome and for the tree that is left (`readText_apply`, `loadSettings_apply`,
`saveSettings_apply`), so that what is said about it need not go through its steps.
-/
import Mathlib.Tactic
import SchemaTypings.Proofs.Workspace.Path
import SchemaTypings.Workspace.Generation
import SchemaTypings.Workspace.Tree

namespace SchemaTypings.Workspace

open SchemaTypings.Config (Settings)
open SchemaTypings.Text (Str TextLike)

/-- work on the files of a tree -/
abbrev Work (α : Type) := StateM Tree (Except Fault α)

variable {α β : Type}

@[simp]
theorem bind_apply (x : StateM Tree α) (f : α → StateM Tree β) (t : Tree) : (x >>= f) t = f (x t).1 (x t).2 := rfl

@[simp]
theorem pure_apply (a : α) (t : Tree) : (pure a : StateM Tree α) t = (a, t) := rfl

/-! ## Texts -/

/-- a text is read with LF for every line end -/
theorem decode_encode_unify (cs : List Char) : decode (encode (String.ofList cs)) = .ok (Text.Line.unify cs) := by
  have hbytes : String.fromUTF8? (encode (String.ofList cs)) = some (String.ofList cs) := by
    rw [encode, String.toUTF8_eq_toByteArray]
    exact dif_pos (String.ofList cs).isValidUTF8
  rw [decode, hbytes]
  dsimp only
  rw [String.toList_ofList]

/-- a text without CR is read as it was written -/
theorem decode_encode {cs : List Char} (h : '\r' ∉ cs) : decode (encode (String.ofList cs)) = .ok cs := by
  rw [decode_encode_unify, Text.Line.unify_of_not_mem h]

/-- a text is read, and nothing changes -/
theorem readText_apply (path : String) (t : Tree) :
    (readText path : Work (List Char)) t = (((t.read path).mapError .file).bind decode, t) := by
  rw [readText, bind_apply, read_apply]
  cases t.read path with
  | error f => rfl
  | ok bytes => rfl

/-! ## Settings -/

/-- the format goes by the suffix of the path that was given -/
@[simp]
theorem formatOf_showPath (path : String) : formatOf (showPath path) = formatOf path := by
  rw [formatOf, formatOf, ofText_showPath]

theorem formatOf_eq_yaml {path : String}
    (h : (Path.ofText path).suffix = ".yaml" ∨ (Path.ofText path).suffix = ".yml") :
    formatOf path = .yaml := if_pos h

theorem formatOf_eq_json {path : String}
    (h : (Path.ofText path).suffix ≠ ".yaml" ∧ (Path.ofText path).suffix ≠ ".yml") :
    formatOf path = .json := if_neg (not_or.2 h)

/-- settings are loaded, and nothing changes -/
theorem loadSettings_apply [Yaml.Stack] (path : String) (t : Tree) :
    (loadSettings path : Work (Settings Str)) t =
      ((((t.read (showPath path)).mapError .file).bind decode).bind (settingsOf (showPath path)), t) := by
  rw [loadSettings, bind_apply, readText_apply]
  cases ((t.read (showPath path)).mapError .file).bind decode with
  | error f => simp
  | ok text => simp

section

variable {τ : Type} [TextLike τ]

/-- settings are saved as the text of the format of the path; if it cannot be written, nothing changes -/
theorem saveSettings_apply (s : Settings τ) (path : String) (t : Tree) :
    (saveSettings s path : Work Unit) t =
      match t.write (showPath path) (encode (String.ofList (s.toText (formatOf path)))) with
      | .ok t' => (.ok (), t')
      | .error f => (.error (.file f), t) := by
  rw [saveSettings, bind_apply, write_apply, formatOf_showPath, changing]
  cases t.write (showPath path) (encode (String.ofList (s.toText (formatOf path)))) with
  | error f => rfl
  | ok t' => rfl

theorem saveSettings_eq_ok {s : Settings τ} {path : String} {t t' : Tree}
    (h : (saveSettings s path : Work Unit) t = (.ok (), t')) :
    t.write (showPath path) (encode (String.ofList (s.toText (formatOf path)))) = .ok t' := by
  rw [saveSettings_apply] at h
  cases hwrite : t.write (showPath path) (encode (String.ofList (s.toText (formatOf path)))) with
  | error f =>
    rw [hwrite] at h
    cases (Prod.mk.inj h).1
  | ok t'' =>
    rw [hwrite] at h
    rw [(Prod.mk.inj h).2]

end

end SchemaTypings.Workspace
