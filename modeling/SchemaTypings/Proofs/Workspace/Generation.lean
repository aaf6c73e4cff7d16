/-
What generating does to a tree.

A schema file is read and its module made without any change (`loadSchema_apply`, `emission`); only then the module is
written, and directories are made for it before (`deliver`). `generate_apply` puts both together. What is delivered adds
directories around the file, and then the file or nothing (`writeText_eq`). The file has the bytes of the module, or none
if the module is no text (`contentOf_cases`).
-/
import SchemaTypings.Proofs.Workspace.Directories
import SchemaTypings.Proofs.Workspace.Work

namespace SchemaTypings.Workspace

open SchemaTypings.Config (Settings)
open SchemaTypings.Schema (Definition)
open SchemaTypings.Text (Str TextLike Unpaired)
open SchemaTypings.Typings (Record)

variable {τ : Type} [TextLike τ] {t t' : Tree}

/-! ## Before anything is written -/

/-- the text that a schema file is read as -/
def schemaText (t : Tree) (schema : String) : Except Fault (List Char) :=
  if t.kind? (showPath schema) = none then .error (.schemaMissing (showPath schema))
  else ((t.read (showPath schema)).mapError .file).bind decode

/-- the module of a schema file -/
def emission (t : Tree) (schema : String) (s : Settings τ) : Except Fault τ :=
  (schemaText t schema).bind (moduleOfText s)

/-- a schema is loaded, and nothing changes -/
theorem loadSchema_apply (schema : String) (t : Tree) :
    ∃ log, (loadSchema schema : StateM Tree (Except Fault (List (Definition String)) × List Record)) t =
      (((schemaText t schema).bind fun text => (Sdl.parse text).mapError (.source text), log), t) := by
  rw [loadSchema, bind_apply, kind?_apply, schemaText]
  cases t.kind? (showPath schema) with
  | none => exact ⟨_, rfl⟩
  | some kind =>
    dsimp only
    rw [bind_apply, readText_apply, if_neg (by simp)]
    cases ((t.read (showPath schema)).mapError .file).bind decode with
    | error f => exact ⟨_, rfl⟩
    | ok text => exact ⟨_, rfl⟩

/-- a file that can be read is there -/
theorem kind?_of_read {path : String} {bytes : ByteArray} (h : t.read path = .ok bytes) : t.kind? path = some .file := by
  obtain ⟨place, hlocate, hplace⟩ := Tree.read_eq_ok_iff.1 h
  rw [Tree.kind?, hlocate]
  dsimp only
  rw [hplace]

/-- a schema file is parsed as the text that it is read as, and nothing changes -/
theorem loadSchema_of_read {schema : String} {bytes : ByteArray} {text : List Char}
    (hread : t.read (showPath schema) = .ok bytes) (hdecode : decode bytes = .ok text) :
    (loadSchema schema : StateM Tree (Except Fault (List (Definition String)) × List Record)) t =
      (((Sdl.parse text).mapError (.source text), [.reading (showPath schema)]), t) := by
  have htext : (readText (showPath schema) : Work (List Char)) t = (.ok text, t) := by
    rw [readText_apply, hread]
    exact congrArg (·, t) hdecode
  rw [loadSchema, bind_apply, kind?_apply, kind?_of_read hread]
  dsimp only
  rw [bind_apply, htext]
  rfl

/-- the module of a schema file that can be read is that of the text that it is read as -/
theorem emission_of_read {schema : String} {bytes : ByteArray} (hread : t.read (showPath schema) = .ok bytes)
    (s : Settings τ) : emission t schema s = (decode bytes).bind (moduleOfText s) := by
  rw [emission, schemaText, kind?_of_read hread, if_neg (by simp), hread]
  rfl

/-! ## Writing -/

/-- a module is returned, after it is written if there is a path for it -/
def deliver (out : Option String) (text : τ) : StateM Tree (Except Fault τ) :=
  match out with
  | none => pure (.ok text)
  | some path => do return (← writeText path text).map fun _ => text

@[simp]
theorem deliver_none (text : τ) (t : Tree) : deliver none text t = (.ok text, t) := rfl

@[simp]
theorem deliver_some (path : String) (text : τ) (t : Tree) :
    deliver (some path) text t =
      (((writeText path text : Work Unit) t).1.map fun _ => text, ((writeText path text : Work Unit) t).2) := by
  rw [deliver, bind_apply, pure_apply]

/-- **A module is made first**, from files that stay as they are; it is delivered last. -/
theorem generate_apply (schema : String) (out : Option String) (s : Settings τ) (t : Tree) :
    ∃ log, (generate schema out s : StateM Tree (Except Fault τ × List Record)) t =
      match emission t schema s with
      | .error f => ((.error f, log), t)
      | .ok text => (((deliver out text t).1, log), (deliver out text t).2) := by
  obtain ⟨log, hload⟩ := loadSchema_apply schema t
  rw [generate, bind_apply, hload, emission]
  cases schemaText t schema with
  | error f => exact ⟨_, rfl⟩
  | ok text =>
    simp only [Except.bind, moduleOfText]
    cases Sdl.parse text with
    | error f => exact ⟨_, rfl⟩
    | ok ds =>
      simp only [Except.mapError]
      cases Typings.moduleOf s.context s.header s.indent ds with
      | mk r more =>
        cases r with
        | error f => exact ⟨_, rfl⟩
        | ok text =>
          cases out with
          | none => exact ⟨_, rfl⟩
          | some path =>
            dsimp only
            rw [bind_apply, deliver_some]
            cases (writeText path text : Work Unit) t with
            | mk r t' =>
              cases r with
              | error f => exact ⟨_, rfl⟩
              | ok u => exact ⟨_, rfl⟩

@[simp]
theorem makeParents_showPath (path : String) (t : Tree) :
    (makeParents (showPath path) : StateM Tree (Except FileFault Unit)) t =
      (makeParents path : StateM Tree (Except FileFault Unit)) t := by
  rw [makeParents, makeParents, ofText_showPath]

/-- a text has bytes, and a string that is no text leaves its file empty -/
theorem contentOf_cases (text : τ) :
    (∃ s, TextLike.toStr text = .text s ∧ contentOf text = (encode s, .ok ())) ∨
      ∃ u, TextLike.toStr text = .unpaired u ∧ contentOf text = (.empty, .error (.unencodable u.fault)) := by
  unfold contentOf
  cases TextLike.toStr text with
  | text s => exact .inl ⟨s, rfl, rfl⟩
  | unpaired u => exact .inr ⟨u, rfl, rfl⟩

/-- a module is written in two steps: the directories around its file are made, and then the file, whether or not the
module has bytes -/
theorem writeText_apply (path : String) (text : τ) (t : Tree) :
    (writeText path text : Work Unit) t =
      match (makeParents path : StateM Tree (Except FileFault Unit)) t with
      | (.error f, t₁) => (.error (.file f), t₁)
      | (.ok (), t₁) =>
        match t₁.write (showPath path) (contentOf text).1 with
        | .error f => (.error (.file f), t₁)
        | .ok t' => ((contentOf text).2, t') := by
  rw [writeText, bind_apply, makeParents_showPath]
  cases (makeParents path : StateM Tree (Except FileFault Unit)) t with
  | mk r t₁ =>
    cases r with
    | error f => rfl
    | ok u =>
      dsimp only
      rw [bind_apply, write_apply, changing]
      cases t₁.write (showPath path) (contentOf text).1 <;> rfl

/-- **What writing a module does**: directories around the file are added. Then the file is written, or there is a fault of
a file and nothing else changes. -/
theorem writeText_eq (path : String) (text : τ) (t : Tree) :
    ∃ t₁, Adds (IsAround path) t t₁ ∧
      ((∃ f, (writeText path text : Work Unit) t = (.error (.file f), t₁)) ∨
        ∃ t', t₁.write (showPath path) (contentOf text).1 = .ok t' ∧
          (writeText path text : Work Unit) t = ((contentOf text).2, t')) := by
  have hadds := makeParents_addsOnly path t
  rw [writeText_apply]
  cases hparents : (makeParents path : StateM Tree (Except FileFault Unit)) t with
  | mk r t₁ =>
    rw [hparents] at hadds
    refine ⟨t₁, hadds, ?_⟩
    cases r with
    | error f => exact .inl ⟨f, rfl⟩
    | ok u =>
      cases hwrite : t₁.write (showPath path) (contentOf text).1 with
      | error f => exact .inl ⟨f, by simp [hwrite]⟩
      | ok t' => exact .inr ⟨t', rfl, by simp [hwrite]⟩

/-- writing fails by a fault of a file, or the module is no text and its file is left empty -/
theorem writeText_eq_error {path : String} {text : τ} {f : Fault} (h : (writeText path text : Work Unit) t = (.error f, t')) :
    (∃ g, f = .file g) ∨
      ∃ u, TextLike.toStr text = .unpaired u ∧ f = .unencodable u.fault ∧ t'.read (showPath path) = .ok .empty := by
  obtain ⟨t₁, _, ⟨g, hwrite⟩ | ⟨t₂, hfile, hwrite⟩⟩ := writeText_eq path text t
  · rw [hwrite] at h
    exact .inl ⟨g, (Except.error.inj (Prod.mk.inj h).1).symm⟩
  · rw [hwrite] at h
    obtain ⟨hresult, rfl⟩ := Prod.mk.inj h
    rcases contentOf_cases text with ⟨s, _, hcontent⟩ | ⟨u, hu, hcontent⟩
    · rw [hcontent] at hresult
      cases hresult
    · rw [hcontent] at hresult hfile
      exact .inr ⟨u, hu, (Except.error.inj hresult).symm, Tree.read_of_write hfile⟩

/-- a module that is written is a text, which is the content of the file -/
theorem read_of_writeText {path : String} {text : τ} (h : (writeText path text : Work Unit) t = (.ok (), t')) :
    ∃ s, TextLike.toStr text = .text s ∧ t'.read (showPath path) = .ok (encode s) := by
  obtain ⟨t₁, _, ⟨g, hwrite⟩ | ⟨t₂, hfile, hwrite⟩⟩ := writeText_eq path text t
  · rw [hwrite] at h
    cases h
  · rw [hwrite] at h
    obtain ⟨hresult, rfl⟩ := Prod.mk.inj h
    rcases contentOf_cases text with ⟨s, hs, hcontent⟩ | ⟨u, _, hcontent⟩
    · rw [hcontent] at hfile
      exact ⟨s, hs, Tree.read_of_write hfile⟩
    · rw [hcontent] at hresult
      cases hresult

end SchemaTypings.Workspace
