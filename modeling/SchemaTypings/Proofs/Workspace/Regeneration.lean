/-
A module that is generated again is the same, and so are all files.

The second time, the directories around the file are there (`makeParents_again`), and the file goes to the place where it
is, with the bytes that it has (`Tree.write_again`). The schema is read as before, as nothing else has changed
(`read_of_frame`). So nothing happens (`generate_again`), unless the module was written over its own schema
(`nestedRun_overwrites`).
-/
import SchemaTypings.Proofs.Workspace.Frame
import SchemaTypings.Proofs.Workspace.SchemaFile
import SchemaTypings.Proofs.Workspace.ShownPath

namespace SchemaTypings.Workspace

open SchemaTypings.Config (Settings)
open SchemaTypings.Schema (Definition)
open SchemaTypings.Text (TextLike)
open SchemaTypings.Typings (Record)

variable {τ : Type} [TextLike τ] {text : τ}
variable {t t' t₁ : Tree} {path schema out : String} {place : List String} {content bytes : ByteArray}

/-! ## Directories that are there -/

/-- directories stay -/
theorem kind?_of_grows (hgrows : Tree.Grows t t') (h : t.kind? path = some .directory) :
    t'.kind? path = some .directory := by
  obtain ⟨place, hlocate, hplace⟩ := Tree.kind?_eq_directory_iff.1 h
  exact Tree.kind?_eq_directory_iff.2 ⟨place, hgrows.locate hlocate, hgrows.directories place hplace⟩

/-- a directory that is made is there -/
theorem kind?_of_makeDirectory (hpath : Tree.withoutSlashes path = path) (h : t.makeDirectory path = .ok t') :
    t'.kind? path = some .directory := by
  obtain ⟨place, htarget, hplace, rfl⟩ := Tree.makeDirectory_eq_ok hpath h
  have hdirectory : t.get? place ≠ some .directory := by
    rw [hplace]
    nofun
  refine Tree.kind?_eq_directory_iff.2 ⟨place, Tree.locate_of_target htarget hdirectory _, ?_⟩
  rw [Tree.get?_put _ _ _ _ (Tree.ne_top hdirectory), if_pos rfl]

/-- a directory that is made or tolerated is there -/
theorem kind?_of_tolerating (hpath : Tree.withoutSlashes path = path) {r : Except FileFault Unit}
    (hmake : (FileStore.makeDirectory path : StateM Tree (Except FileFault Unit)) t = (r, t₁))
    (h : (toleratingExisting path r : StateM Tree (Except FileFault Unit)) t₁ = (.ok (), t')) :
    t'.kind? path = some .directory := by
  cases r with
  | ok u =>
    obtain rfl : t₁ = t' := congrArg Prod.snd h
    have hdirectory : t.makeDirectory path = .ok t₁ := changing_eq_ok.1 hmake
    exact kind?_of_makeDirectory hpath hdirectory
  | error f =>
    unfold toleratingExisting at h
    dsimp only at h
    split_ifs at h with hmissing
    · cases h
    · rw [bind_apply, kind?_apply] at h
      dsimp only at h
      split_ifs at h with hdirectory
      · obtain rfl : t₁ = t' := congrArg Prod.snd h
        exact hdirectory
      · cases h

/-- **A directory that is made with those around it is there.** -/
theorem kind?_of_makeDirectories (root : Root) {names : List String} (hnames : ∀ n ∈ names, IsName n)
    (h : (makeDirectories root names : StateM Tree (Except FileFault Unit)) t = (.ok (), t')) :
    t'.kind? (Path.mk root names.reverse).text = some .directory := by
  have hpath := withoutSlashes_text root fun n hn => hnames n (List.mem_reverse.1 hn)
  -- whether those around it are made or not, the directory itself is made or tolerated last
  cases names with
  | nil => exact kind?_of_tolerating hpath rfl h
  | cons n around =>
    rw [makeDirectories, bind_apply] at h
    cases hmake : (FileStore.makeDirectory (Path.mk root (n :: around).reverse).text :
        StateM Tree (Except FileFault Unit)) t with
    | mk r t₁ =>
      rw [hmake] at h
      cases r with
      | ok u => exact kind?_of_tolerating hpath hmake h
      | error f =>
        obtain ⟨obstacle, _⟩ := f
        cases obstacle with
        | notFound =>
          dsimp only at h
          rw [bind_apply] at h
          cases haround : (makeDirectories root around : StateM Tree (Except FileFault Unit)) t₁ with
          | mk r t₂ =>
            rw [haround] at h
            cases r with
            | error f => cases h
            | ok u => exact kind?_of_tolerating hpath rfl h
        | _ => exact kind?_of_tolerating hpath hmake h

/-- a directory that is there is not made, and tolerated -/
theorem makeDirectory_of_directory (hpath : Tree.withoutSlashes path = path) (h : t.kind? path = some .directory) :
    (FileStore.makeDirectory path : StateM Tree (Except FileFault Unit)) t = (.error ⟨.exists, path⟩, t) ∧
      (toleratingExisting path (.error ⟨.exists, path⟩) : StateM Tree (Except FileFault Unit)) t = (.ok (), t) := by
  constructor
  · obtain ⟨place, hlocate, hplace⟩ := Tree.kind?_eq_directory_iff.1 h
    have hexists : t.makeDirectory path = .error ⟨.exists, path⟩ := by
      rw [Tree.makeDirectory, hpath, Tree.target, hlocate]
      dsimp only
      rw [hplace]
    rw [makeDirectory_apply, changing, hexists]
  · have hobstacle : ¬Obstacle.exists = .notFound := by decide
    rw [toleratingExisting]
    dsimp only
    rw [if_neg hobstacle, bind_apply, kind?_apply, h]
    rfl

/-- **To make a directory that is there changes nothing.** -/
theorem makeDirectories_of_directory (root : Root) {names : List String} (hnames : ∀ n ∈ names, IsName n)
    (h : t.kind? (Path.mk root names.reverse).text = some .directory) :
    (makeDirectories root names : StateM Tree (Except FileFault Unit)) t = (.ok (), t) := by
  have hpath := withoutSlashes_text root fun n hn => hnames n (List.mem_reverse.1 hn)
  obtain ⟨hmake, htolerated⟩ := makeDirectory_of_directory hpath h
  cases names with
  | nil =>
    rw [List.reverse_nil] at hmake htolerated
    rw [makeDirectories, bind_apply, hmake]
    exact htolerated
  | cons n around =>
    rw [makeDirectories, bind_apply, hmake]
    exact htolerated

/-- the directories around a file are there after they are made, and so they are in all trees that grow from there -/
theorem makeParents_again (h : (makeParents path : StateM Tree (Except FileFault Unit)) t = (.ok (), t₁))
    (hgrows : Tree.Grows t₁ t') : (makeParents path : StateM Tree (Except FileFault Unit)) t' = (.ok (), t') := by
  have hnames : ∀ n ∈ (Path.ofText path).parent.names.reverse, IsName n := fun n hn =>
    isName_of_mem_ofText (List.dropLast_subset _ (List.mem_reverse.1 hn))
  exact makeDirectories_of_directory _ hnames (kind?_of_grows hgrows (kind?_of_makeDirectories _ hnames h))

/-! ## Files that are there -/

/-- a text is written once the directories around its file are made -/
theorem writeText_eq_ok_iff : (writeText path text : Work Unit) t = (.ok (), t') ↔
    ∃ t₁, (makeParents path : StateM Tree (Except FileFault Unit)) t = (.ok (), t₁) ∧
      t₁.write (showPath path) (contentOf text).1 = .ok t' ∧ (contentOf text).2 = .ok () := by
  rw [writeText_apply]
  cases (makeParents path : StateM Tree (Except FileFault Unit)) t with
  | mk r t₁ =>
    cases r with
    | error f =>
      refine iff_of_false (fun h => by cases h) ?_
      rintro ⟨_, hparents, _⟩
      cases hparents
    | ok u =>
      dsimp only
      cases hfile : t₁.write (showPath path) (contentOf text).1 with
      | error f =>
        refine iff_of_false (fun h => by cases h) ?_
        rintro ⟨t₂, hparents, hfile', _⟩
        obtain rfl : t₁ = t₂ := congrArg Prod.snd hparents
        rw [hfile] at hfile'
        cases hfile'
      | ok t₂ =>
        constructor
        · intro h
          obtain ⟨hcontent, rfl⟩ := Prod.mk.inj h
          exact ⟨t₁, rfl, hfile, hcontent⟩
        · rintro ⟨t₃, hparents, hfile', hcontent⟩
          obtain rfl : t₁ = t₃ := congrArg Prod.snd hparents
          rw [hfile] at hfile'
          obtain rfl := Except.ok.inj hfile'
          exact Prod.ext hcontent rfl

/-- **To write a text again changes nothing.** -/
theorem writeText_again (h : (writeText path text : Work Unit) t = (.ok (), t')) :
    (writeText path text : Work Unit) t' = (.ok (), t') := by
  obtain ⟨t₁, hparents, hwrite, hcontent⟩ := writeText_eq_ok_iff.1 h
  have hgrows : Tree.Grows t₁ t' := by
    obtain ⟨place, hfilePlace, rfl⟩ := Tree.write_eq_ok hwrite
    exact Tree.grows_put (Tree.filePlace_eq_ok hfilePlace).2 _
  exact writeText_eq_ok_iff.2 ⟨t', makeParents_again hparents hgrows, Tree.write_again hwrite, hcontent⟩

/-! ## Schemas that are read again -/

/-- a file that no path denotes that is written has the bytes that it had -/
theorem read_of_frame {outs dirs : String → Prop} (hframe : Frame outs dirs t t') (h : t.read path = .ok bytes)
    (hother : ∀ out, outs out → denoted out ≠ denoted path) : t'.read path = .ok bytes := by
  obtain ⟨place, hlocate, hplace⟩ := Tree.read_eq_ok_iff.1 h
  refine Tree.read_eq_ok_iff.2 ⟨place, hframe.grows.locate hlocate, ?_⟩
  cases hframe place with
  | kept hkept => rw [hkept, hplace]
  | written out _ hout hwritten _ _ =>
    have hdenoted : denoted out = denoted path := by
      rw [← denoted_showPath out, ← eq_denoted hwritten, eq_denoted hlocate]
    exact absurd hdenoted (hother out hout)
  | made _ _ _ _ _ _ hmissing _ =>
    rw [hplace] at hmissing
    cases hmissing

/-- a schema that is loaded is a file with a text -/
theorem exists_of_loadSchema {ds : List (Definition String)} {log : List Record}
    (h : (loadSchema schema : StateM Tree (Except Fault (List (Definition String)) × List Record)) t =
      ((.ok ds, log), t')) :
    t' = t ∧ ∃ bytes text, t.read (showPath schema) = .ok bytes ∧ decode bytes = .ok text := by
  obtain ⟨log', hload⟩ := loadSchema_apply schema t
  rw [hload] at h
  refine ⟨(congrArg Prod.snd h).symm, ?_⟩
  have hresult := congrArg (·.1.1) h
  dsimp only at hresult
  unfold schemaText at hresult
  split_ifs at hresult with hmissing
  · cases hresult
  · cases hread : t.read (showPath schema) with
    | error f =>
      rw [hread] at hresult
      cases hresult
    | ok bytes =>
      rw [hread] at hresult
      cases hdecode : decode bytes with
      | error f =>
        simp only [Except.mapError, Except.bind, hdecode] at hresult
        cases hresult
      | ok text => exact ⟨bytes, text, rfl, hdecode⟩

/-- a schema that is read as before is loaded as before -/
theorem loadSchema_again {ds : List (Definition String)} {log : List Record}
    (h : (loadSchema schema : StateM Tree (Except Fault (List (Definition String)) × List Record)) t = ((.ok ds, log), t))
    (hread : ∀ bytes, t.read (showPath schema) = .ok bytes → t'.read (showPath schema) = .ok bytes) :
    (loadSchema schema : StateM Tree (Except Fault (List (Definition String)) × List Record)) t' =
      ((.ok ds, log), t') := by
  obtain ⟨_, bytes, text, hbytes, hdecode⟩ := exists_of_loadSchema h
  have hfirst := loadSchema_of_read hbytes hdecode
  rw [h] at hfirst
  rw [loadSchema_of_read (hread bytes hbytes) hdecode]
  exact congrArg (fun r => (r.1, t')) hfirst.symm

/-! ## Generating -/

/-- a schema that is loaded and has a module that can be written is generated from -/
theorem generate_of_writeText {s : Settings τ} {ds : List (Definition String)} {loading emitting : List Record}
    (hload : (loadSchema schema : StateM Tree (Except Fault (List (Definition String)) × List Record)) t =
      ((.ok ds, loading), t))
    (hmodule : Typings.moduleOf s.context s.header s.indent ds = (.ok text, emitting))
    (hwrite : (writeText out text : Work Unit) t = (.ok (), t')) :
    (generate schema (some out) s : StateM Tree (Except Fault τ × List Record)) t =
      ((.ok text, loading ++ emitting ++ [.generated ds.length] ++ [.wrote (showPath out)]), t') := by
  rw [generate, bind_apply, hload]
  dsimp only
  rw [hmodule]
  dsimp only
  rw [bind_apply, hwrite]
  rfl

/-- and a module that is generated comes about in this way only -/
theorem exists_of_generate {s : Settings τ} {log : List Record}
    (h : (generate schema (some out) s : StateM Tree (Except Fault τ × List Record)) t = ((.ok text, log), t')) :
    ∃ ds loading emitting,
      (loadSchema schema : StateM Tree (Except Fault (List (Definition String)) × List Record)) t =
        ((.ok ds, loading), t) ∧
      Typings.moduleOf s.context s.header s.indent ds = (.ok text, emitting) ∧
      (writeText out text : Work Unit) t = (.ok (), t') := by
  rw [generate, bind_apply] at h
  cases hload : (loadSchema schema : StateM Tree (Except Fault (List (Definition String)) × List Record)) t with
  | mk r t₁ =>
    obtain ⟨r, loading⟩ := r
    rw [hload] at h
    cases r with
    | error f => cases h
    | ok ds =>
      obtain ⟨rfl, _⟩ := exists_of_loadSchema hload
      dsimp only at h
      cases hmodule : Typings.moduleOf s.context s.header s.indent ds with
      | mk m emitting =>
        rw [hmodule] at h
        cases m with
        | error f => cases h
        | ok made =>
          dsimp only at h
          rw [bind_apply] at h
          cases hwrite : (writeText out made : Work Unit) t₁ with
          | mk w t₂ =>
            rw [hwrite] at h
            cases w with
            | error f => cases h
            | ok u =>
              obtain rfl : made = text := Except.ok.inj (congrArg (·.1.1) h)
              obtain rfl : t₂ = t' := congrArg Prod.snd h
              exact ⟨ds, loading, emitting, rfl, hmodule, hwrite⟩

/-- **To generate again changes nothing.** If a module is generated into a file that is not its schema, the same call
has the same outcome with the same records on the files that are left, and leaves them as they are. -/
theorem generate_again {s : Settings τ} {log : List Record}
    (h : (generate schema (some out) s : StateM Tree (Except Fault τ × List Record)) t = ((.ok text, log), t'))
    (hother : denoted out ≠ denoted schema) :
    (generate schema (some out) s : StateM Tree (Except Fault τ × List Record)) t' = ((.ok text, log), t') := by
  obtain ⟨ds, loading, emitting, hload, hmodule, hwrite⟩ := exists_of_generate h
  have hframe : Frame (some out = some ·) (some out = some ·) t t' := by
    have hdeliver := deliver_frame (some out) text t
    rwa [deliver_some, hwrite] at hdeliver
  have hread : ∀ bytes, t.read (showPath schema) = .ok bytes → t'.read (showPath schema) = .ok bytes := by
    intro bytes hbytes
    refine read_of_frame hframe hbytes ?_
    rintro _ ⟨⟩
    rwa [denoted_showPath]
  have hfirst := generate_of_writeText hload hmodule hwrite
  rw [h] at hfirst
  exact (generate_of_writeText (loadSchema_again hload hread) hmodule (writeText_again hwrite)).trans hfirst.symm

/-- a tree with a schema, and a file to which `gen/../lib/./m.ts` leads once there is a directory `gen` -/
def nestedTree : Tree :=
  ⟨[(["s.graphql"], .file (encode "type A")), (["lib"], .directory), (["lib", "m.ts"], .file (encode "old"))]⟩

/-- what is left of that tree, and the outcome, when a module is generated into a file of a path -/
def nestedRun (out : String) : (Except Fault String × List Record) × Tree :=
  (generate "s.graphql" (some out) Settings.default : StateM Tree (Except Fault String × List Record)) nestedTree

theorem generate_again_nested :
    ∃ text log t', nestedRun "gen/../lib/./m.ts" = ((.ok text, log), t') ∧
      denoted "gen/../lib/./m.ts" ≠ denoted "s.graphql" ∧
      (generate "s.graphql" (some "gen/../lib/./m.ts") Settings.default :
        StateM Tree (Except Fault String × List Record)) t' = ((.ok text, log), t') := by
  obtain ⟨text, htext⟩ : ∃ text, (nestedRun "gen/../lib/./m.ts").1.1 = .ok text := exists_of_isOk (by decide +kernel)
  have hother : denoted "gen/../lib/./m.ts" ≠ denoted "s.graphql" := by decide +kernel
  have hfirst : nestedRun "gen/../lib/./m.ts" =
      ((.ok text, (nestedRun "gen/../lib/./m.ts").1.2), (nestedRun "gen/../lib/./m.ts").2) := by rw [← htext]
  exact ⟨text, _, _, hfirst, hother, generate_again hfirst hother⟩

/-- the premise is about what a path denotes, and not about what is there: this one leads nowhere, and to the schema once
the directory `gen` is made on the way, so that the module is written over it -/
theorem nestedRun_overwrites :
    nestedTree.kind? (showPath "gen/../s.graphql") = none ∧ denoted "gen/../s.graphql" = denoted "s.graphql" ∧
      (nestedRun "gen/../s.graphql").1.1.isOk = true ∧
      (nestedRun "gen/../s.graphql").2.locate (showPath "gen/../s.graphql") = .ok ["s.graphql"] := by
  decide +kernel

end SchemaTypings.Workspace
