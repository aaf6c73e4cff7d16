/-
What may change in a tree.

`Change` lists what may happen at a place: nothing; a file is written there, for a path that leads to it; or a directory
that was missing is made, which a path to such a file passes through. `Frame` says this of all places, so that nothing is
removed (`Frame.grows`). It holds of one write (`frame_of_write`) and of directories that are added (`frame_of_adds`),
and it goes on from tree to tree (`Frame.trans`); what is delivered has it (`deliver_frame`).
-/
import SchemaTypings.Proofs.Workspace.Generation

namespace SchemaTypings.Workspace

open SchemaTypings.Text (TextLike)

variable {t t' t'' : Tree} {outs dirs : String → Prop} {path : String} {content : ByteArray}

/-- what may happen at a place, if files are written to the paths `outs` and directories made for the paths `dirs` -/
inductive Change (outs dirs : String → Prop) (t t' : Tree) (place : List String) : Prop where
  | kept : t'.get? place = t.get? place → Change outs dirs t t' place
  | written (path : String) (content : ByteArray) : outs path → t'.locate (showPath path) = .ok place →
      t.get? place ≠ some .directory → t'.get? place = some (.file content) → Change outs dirs t t' place
  | made (path around : String) : dirs path → IsAround path around → t.kind? around = none →
      t'.locate around = .ok place → t.get? place = none → t'.get? place = some .directory →
      Change outs dirs t t' place

/-- nothing else changes than files of the paths `outs`, and directories on the way to the paths `dirs` -/
def Frame (outs dirs : String → Prop) (t t' : Tree) : Prop := ∀ place, Change outs dirs t t' place

theorem Frame.refl (outs dirs : String → Prop) (t : Tree) : Frame outs dirs t t := fun _ => .kept rfl

theorem Frame.grows (h : Frame outs dirs t t') : Tree.Grows t t' where
  entries := fun place hplace => by
    cases h place with
    | kept hkept => rwa [hkept]
    | written _ _ _ _ _ hfile => rw [hfile]; rfl
    | made _ _ _ _ _ _ _ hdirectory => rw [hdirectory]; rfl
  directories := fun place hplace => by
    cases h place with
    | kept hkept => rw [hkept, hplace]
    | written _ _ _ _ hdirectory _ => exact absurd hplace hdirectory
    | made _ _ _ _ _ _ _ hdirectory => exact hdirectory

theorem Frame.mono {outs' dirs' : String → Prop} (h : Frame outs dirs t t') (houts : ∀ path, outs path → outs' path)
    (hdirs : ∀ path, dirs path → dirs' path) : Frame outs' dirs' t t' := by
  intro place
  cases h place with
  | kept hkept => exact .kept hkept
  | written path content hout hlocate hbefore hfile => exact .written path content (houts path hout) hlocate hbefore hfile
  | made path around hdir haround hmissing hlocate hbefore hdirectory =>
    exact .made path around (hdirs path hdir) haround hmissing hlocate hbefore hdirectory

/-- **Frames follow one another.** -/
theorem Frame.trans (h : Frame outs dirs t t') (h' : Frame outs dirs t' t'') : Frame outs dirs t t'' := by
  intro place
  have hgrows : Tree.Grows t t'' :=
    ⟨fun place hplace => h'.grows.entries place (h.grows.entries place hplace),
      fun place hplace => h'.grows.directories place (h.grows.directories place hplace)⟩
  cases h place with
  | kept hkept =>
    cases h' place with
    | kept hkept' => exact .kept (hkept'.trans hkept)
    | written path content hout hlocate hbefore hfile =>
      exact .written path content hout hlocate (hkept ▸ hbefore) hfile
    | made path around hdir haround _ hlocate hbefore hdirectory =>
      rw [hkept] at hbefore
      exact .made path around hdir haround (kind?_eq_none hgrows hlocate hbefore) hlocate hbefore hdirectory
  | written path content hout hlocate hbefore hfile =>
    cases h' place with
    | kept hkept' => exact .written path content hout (h'.grows.locate hlocate) hbefore (hkept'.trans hfile)
    | written path' content' hout' hlocate' _ hfile' => exact .written path' content' hout' hlocate' hbefore hfile'
    | made _ _ _ _ _ _ hnone _ =>
      rw [hfile] at hnone
      cases hnone
  | made path around hdir haround hmissing hlocate hbefore hdirectory =>
    cases h' place with
    | kept hkept' =>
      exact .made path around hdir haround hmissing (h'.grows.locate hlocate) hbefore (hkept'.trans hdirectory)
    | written _ _ _ _ hnot _ => exact absurd hdirectory hnot
    | made _ _ _ _ _ _ hnone _ =>
      rw [hdirectory] at hnone
      cases hnone

/-! ## Operations -/

theorem frame_of_write (hout : outs path) (h : t.write (showPath path) content = .ok t') : Frame outs dirs t t' := by
  obtain ⟨place, hfilePlace, rfl⟩ := Tree.write_eq_ok h
  obtain ⟨htarget, hplace⟩ := Tree.filePlace_eq_ok hfilePlace
  intro other
  by_cases hother : other = place
  · subst hother
    refine .written path content hout (Tree.locate_of_target htarget hplace _) hplace ?_
    rw [Tree.get?_put _ _ _ _ (Tree.ne_top hplace), if_pos rfl]
  · exact .kept (by rw [Tree.get?_put _ _ _ _ (Tree.ne_top hplace), if_neg hother])

theorem frame_of_adds (hdir : dirs path) (h : Adds (IsAround path) t t') : Frame outs dirs t t' := by
  intro place
  rcases h place with hkept | ⟨hbefore, hdirectory, around, haround, hlocate⟩
  · exact .kept hkept
  · exact .made path around hdir haround (kind?_eq_none h.grows hlocate hbefore) hlocate hbefore hdirectory

section

variable {τ : Type} [TextLike τ] {text : τ}

/-- **What delivering changes**, whether it succeeds or not. -/
theorem deliver_frame (out : Option String) (text : τ) (t : Tree) :
    Frame (out = some ·) (out = some ·) t (deliver out text t).2 := by
  cases out with
  | none => exact .refl _ _ t
  | some path =>
    obtain ⟨t₁, hadds, ⟨f, hwrite⟩ | ⟨t', hfile, hwrite⟩⟩ := writeText_eq path text t
    · rw [deliver_some, hwrite]
      exact frame_of_adds rfl hadds
    · rw [deliver_some, hwrite]
      have hbefore : Frame (some path = some ·) (some path = some ·) t t₁ := frame_of_adds rfl hadds
      exact hbefore.trans (frame_of_write rfl hfile)

/-- a module that is delivered is a text, which is the content of the file -/
theorem deliver_eq_ok {out : Option String} {r : τ} (h : (deliver out text t).1 = .ok r) :
    r = text ∧ ∀ path, out = some path →
      ∃ s, TextLike.toStr text = .text s ∧ (deliver out text t).2.read (showPath path) = .ok (encode s) := by
  cases out with
  | none => exact ⟨(Except.ok.inj h).symm, fun _ hpath => nomatch hpath⟩
  | some path =>
    rw [deliver_some] at h ⊢
    cases hwrite : (writeText path text : Work Unit) t with
    | mk w t' =>
      rw [hwrite] at h
      cases w with
      | error f => cases h
      | ok u =>
        refine ⟨(Except.ok.inj h).symm, fun path' hpath => ?_⟩
        obtain rfl := Option.some.inj hpath
        exact read_of_writeText hwrite

/-- delivering fails by a fault of a file, or the module is no text -/
theorem deliver_eq_error {out : Option String} {f : Fault} (h : (deliver out text t).1 = .error f) :
    (∃ g, f = .file g) ∨ ∃ u, TextLike.toStr text = .unpaired u ∧ f = .unencodable u.fault := by
  cases out with
  | none => cases h
  | some path =>
    rw [deliver_some] at h
    cases hwrite : (writeText path text : Work Unit) t with
    | mk w t' =>
      rw [hwrite] at h
      cases w with
      | error g =>
        obtain rfl := Except.error.inj h
        rcases writeText_eq_error hwrite with hfile | ⟨u, hu, hf, _⟩
        · exact .inl hfile
        · exact .inr ⟨u, hu, hf⟩
      | ok u => cases h

end

end SchemaTypings.Workspace
