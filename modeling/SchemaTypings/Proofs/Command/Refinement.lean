/-
The command that generates does what generating from the text does.

With readable files `run_generate` says how the command ends: with the module of the text of the schema file, for the
settings that the options and the config file give, or with the first fault on the way, which is reported. Only control
sequences for a screen do not reach standard output, though a file has them (`piped_eq_self_iff`);
`not_run_generate_verbatim` has a header with one. A header or an indent may be a string that is no text: then the module has
no bytes, and the command fails when it delivers it.
-/
import SchemaTypings.Proofs.Command.Generate
import SchemaTypings.Proofs.Workspace.Frame
import SchemaTypings.Proofs.Workspace.JoinedText
import SchemaTypings.Proofs.Workspace.SchemaFile
import SchemaTypings.Proofs.Workspace.ShownPath

namespace SchemaTypings.Command

open SchemaTypings.Config (Settings)
open SchemaTypings.Text (Str TextLike Piece Unpaired characters?)
open SchemaTypings.Typings (Record)
open SchemaTypings.Workspace

/-! ## Control sequences -/

namespace Screen

/-- whether there is a control sequence for a screen in a text -/
def HasSequence (cs : List Char) : Prop := ∃ before rest, cs = before ++ rest ∧ (afterSequence? rest).isSome = true

theorem length_dropSequences_le (cs : List Char) : (dropSequences cs).length ≤ cs.length := by
  fun_induction dropSequences cs with
  | case1 => exact Nat.le_refl 0
  | case2 c rest h ih => exact Nat.succ_le_succ ih
  | case3 c rest after h hlt ih => exact ih.trans (Nat.le_of_lt (length_afterSequence? h))

/-- a text with a control sequence gets shorter -/
theorem length_dropSequences_lt {cs : List Char} (h : HasSequence cs) : (dropSequences cs).length < cs.length := by
  fun_induction dropSequences cs with
  | case1 =>
    obtain ⟨before, rest, hcs, hrest⟩ := h
    obtain ⟨rfl, rfl⟩ := List.append_eq_nil_iff.1 hcs.symm
    cases hrest
  | case2 c cs hnone ih =>
    obtain ⟨before, rest, hcs, hrest⟩ := h
    cases before with
    | nil =>
      rw [List.nil_append] at hcs
      rw [← hcs, hnone] at hrest
      cases hrest
    | cons d before => exact Nat.succ_lt_succ (ih ⟨before, rest, (List.cons.inj hcs).2, hrest⟩)
  | case3 c cs after hafter hlt ih =>
    exact Nat.lt_of_le_of_lt (length_dropSequences_le after) (length_afterSequence? hafter)

theorem dropSequences_of_not {cs : List Char} (h : ¬ HasSequence cs) : dropSequences cs = cs := by
  fun_induction dropSequences cs with
  | case1 => rfl
  | case2 c cs hnone ih =>
    have hrest : ¬ HasSequence cs := by
      rintro ⟨before, rest, rfl, hrest⟩
      exact h ⟨c :: before, rest, rfl, hrest⟩
    rw [ih hrest]
  | case3 c cs after hafter hlt ih => exact absurd ⟨[], c :: cs, rfl, Option.isSome_of_eq_some hafter⟩ h

theorem isSome_afterSequence?_append {cs : List Char} (h : (afterSequence? cs).isSome = true) (more : List Char) :
    (afterSequence? (cs ++ more)).isSome = true := by
  unfold afterSequence? at h
  split at h
  · next rest =>
    cases hdrop : rest.dropWhile isSequenceParameter with
    | nil =>
      rw [hdrop] at h
      cases h
    | cons c after =>
      rw [hdrop] at h
      have hmore : (rest ++ more).dropWhile isSequenceParameter = c :: (after ++ more) := by
        rw [List.dropWhile_append, hdrop]
        rfl
      simp only [List.cons_append, afterSequence?, hmore]
      by_cases hend : isSequenceEnd c = true
      · simp only [hend, if_true, Option.isSome_some]
      · simp only [hend, Bool.false_eq_true, if_false, Option.isSome_none] at h
  · cases h

/-- a sequence stays one when more text follows -/
theorem HasSequence.append {cs : List Char} (h : HasSequence cs) (more : List Char) : HasSequence (cs ++ more) := by
  obtain ⟨before, rest, rfl, hrest⟩ := h
  exact ⟨before, rest ++ more, List.append_assoc _ _ _, isSome_afterSequence?_append hrest more⟩

/-- **What is piped is the text itself if and only if it has no control sequence for a screen.** -/
theorem piped_eq_self_iff (text : String) : piped text = text ↔ ¬ HasSequence text.toList := by
  constructor
  · intro heq hsequence
    have hlength := length_dropSequences_lt hsequence
    have hchars : dropSequences text.toList = text.toList := by
      rw [← String.toList_ofList (l := dropSequences text.toList)]
      exact congrArg String.toList heq
    rw [hchars] at hlength
    exact absurd hlength (Nat.lt_irrefl _)
  · intro hnone
    rw [piped, dropSequences_of_not hnone, String.ofList_toList]

theorem characters?_append_half (ps qs : List Piece) (n : Text.Surrogate) : characters? (ps ++ .half n :: qs) = none := by
  induction ps with
  | nil => rfl
  | cons p ps ih =>
    cases p with
    | half m => rfl
    | character c => rw [List.cons_append, characters?, ih, Option.map_none]

/-- halves of pairs belong to no control sequence -/
theorem characters?_dropSequencesIn {ps : List Piece} (h : characters? ps = none) (run : List Char) :
    characters? (dropSequencesIn run ps) = none := by
  induction ps generalizing run with
  | nil => cases h
  | cons p ps ih =>
    cases p with
    | half n => exact characters?_append_half _ _ n
    | character c =>
      rw [characters?, Option.map_eq_none_iff] at h
      exact ih h (c :: run)

/-- a string that is no text is none when it is piped -/
theorem exists_pipedStr (u : Unpaired) : ∃ v, pipedStr (.unpaired u) = .unpaired v := by
  refine ⟨⟨dropSequencesIn [] u.pieces, characters?_dropSequencesIn u.unpaired []⟩, ?_⟩
  exact Str.ofPieces_pieces (.unpaired ⟨dropSequencesIn [] u.pieces, characters?_dropSequencesIn u.unpaired []⟩)

end Screen

/-! ## Faults -/

variable {t : Tree} {schema : String} {config : Option String} {context header : Option Str} {bytes : ByteArray}

/-- a fault of two steps is one of the first or of the second -/
theorem bind_eq_error {α β : Type} {x : Except Fault α} {g : α → Except Fault β} {f : Fault}
    (h : x.bind g = .error f) : x = .error f ∨ ∃ a, x = .ok a ∧ g a = .error f := by
  cases x with
  | error e => exact .inl (congrArg Except.error (Except.error.inj h))
  | ok a => exact .inr ⟨a, rfl, h⟩

theorem isReported_of_decode {f : Fault} (h : decode bytes = .error f) : isReported f = true := by
  unfold decode at h
  split at h
  · cases h
  · obtain rfl := Except.error.inj h
    rfl

/-- a text has no module because of a syntax error or of a definition without declaration, which are both reported -/
theorem isReported_of_moduleOfText {s : Settings Str} {text : List Char} {f : Fault}
    (h : moduleOfText s text = .error f) : isReported f = true := by
  have houtcome := moduleOfText_outcome s text
  cases hparse : Sdl.parse text with
  | error g =>
    rw [hparse] at houtcome
    obtain rfl := Except.error.inj (h.symm.trans houtcome)
    rfl
  | ok ds =>
    simp only [hparse] at houtcome
    cases hundeclared : ds.find? (!·.isDeclared) with
    | some d =>
      rw [hundeclared] at houtcome
      obtain rfl := Except.error.inj (h.symm.trans houtcome.2)
      rfl
    | none =>
      rw [hundeclared] at houtcome
      obtain ⟨out, hout⟩ := houtcome.2
      rw [h] at hout
      cases hout

theorem isReported_of_withOptions {s : Settings Str} {f : Fault} (h : withOptions context header s = .error f) :
    isReported f = true := by
  unfold withOptions at h
  split at h
  · cases h
  · obtain rfl := Except.error.inj h
    rfl
  · split_ifs at h
    obtain rfl := Except.error.inj h
    rfl

/-! ## Runs with readable files -/

theorem stoppedAt?_of_read {path : String} (h : t.read path = .ok bytes) (isFile : Bool) : stoppedAt? t path isFile = none := by
  obtain ⟨place, hlocate, _⟩ := Tree.read_eq_ok_iff.1 h
  have hnul : hasNul path = false := (Tree.locate_eq_ok hlocate).2.1
  rw [stoppedAt?, hnul, kind?_of_read h]
  simp

/-- paths of readable files do not stop the command, so that only the path for the module can -/
theorem stopped?_of_read (hschema : t.read schema = .ok bytes)
    (hconfig : ∀ path, config = some path → ∃ content, t.read path = .ok content) (out : Option String) :
    stopped? t schema out config = out.bind fun path => stoppedAt? t path false := by
  have hbefore : ∀ p ∈ config.toList.map (·, true) ++ [(schema, true)], stoppedAt? t p.1 p.2 = none := by
    intro p hp
    rcases List.mem_append.1 hp with hp | hp
    · obtain ⟨path, hpath, rfl⟩ := List.mem_map.1 hp
      obtain ⟨content, hread⟩ := hconfig path (Option.mem_toList.1 hpath)
      exact stoppedAt?_of_read hread true
    · obtain rfl := List.mem_singleton.1 hp
      exact stoppedAt?_of_read hschema true
  have hpaths : lookedUp schema out config =
      (config.toList.map (·, true) ++ [(schema, true)]) ++ out.toList.map (·, false) := by
    rw [lookedUp, List.append_assoc]
    rfl
  rw [stopped?, hpaths, List.findSome?_append, List.findSome?_eq_none_iff.2 hbefore]
  cases out with
  | none => rfl
  | some path => simp

/-- how the command ends with a module that it pipes. Of a text control sequences for a screen are left out; a string that is
no text cannot be piped -/
def IsPiped (verbose : Bool) (log : List Record) (t : Tree) (run : Ending × Tree) : Str → Prop
  | .text text =>
    run = (.report ⟨0, Screen.piped text, logText verbose log⟩, t) ∧
      (Screen.piped text = text ↔ ¬ Screen.HasSequence text.toList)
  | .unpaired u => ∃ v, Screen.pipedStr (.unpaired u) = .unpaired v ∧ run = (.fault (.unencodable v.fault), t)

/-- how the command ends with a module for a file. A text is the content of the file, unless it cannot be written; a string
that is no text is reported, and leaves the file empty -/
def IsWritten (verbose : Bool) (log : List Record) (t : Tree) (path : String) (run : Ending × Tree) (text : Str) : Prop :=
  ∃ result t', (writeText path text : Work Unit) t = (result, t') ∧
    match result with
    | .ok () =>
      run = (.report ⟨0, "", logText verbose log ++ labelled "Declarations written: " (showPath path)⟩, t') ∧
        ∃ s, text = .text s ∧ t'.read (showPath path) = .ok (encode s)
    | .error f =>
      (∃ g, f = .file g ∧ run = (.fault f, t')) ∨
        ∃ u, text = .unpaired u ∧ t'.read (showPath path) = .ok .empty ∧
          run = (.report ⟨1, "", logText verbose log ++ labelled "Error: " u.fault.message⟩, t')

/-- a module is piped as a text, or not at all -/
theorem isPiped_delivering (verbose : Bool) (log : List Record) (t : Tree) (text : Str) :
    IsPiped verbose log t (delivering verbose log none text t) text := by
  have hpiped : delivering verbose log none text t = (succeeded verbose log text none, t) := rfl
  rw [hpiped]
  cases text with
  | text s => exact ⟨rfl, Screen.piped_eq_self_iff s⟩
  | unpaired u =>
    obtain ⟨v, hv⟩ := Screen.exists_pipedStr u
    refine ⟨v, hv, ?_⟩
    rw [succeeded, hv]

/-- a module is written as a text, or its file is left empty -/
theorem isWritten_delivering (verbose : Bool) (log : List Record) (t : Tree) (path : String) (text : Str) :
    IsWritten verbose log t path (delivering verbose log (some path) text t) text := by
  rw [delivering, deliver_some]
  cases hwrite : (writeText path text : Work Unit) t with
  | mk result t' =>
    refine ⟨result, t', hwrite, ?_⟩
    cases result with
    | error f =>
      rcases writeText_eq_error hwrite with ⟨g, rfl⟩ | ⟨u, hu, rfl, hread⟩
      · exact .inl ⟨g, rfl, rfl⟩
      · exact .inr ⟨u, hu, hread, rfl⟩
    | ok u => exact ⟨rfl, read_of_writeText hwrite⟩

section

variable [Yaml.Stack]

/-- what the command makes of readable files: settings, field by field the option, or else the value of the config file,
or else the default, and with them the module of the text of the schema file -/
def documentedModule (t : Tree) (bytes : ByteArray) (config : Option String) (context header : Option Str) :
    Except Fault Str :=
  ((baseSettings t config).bind (withOptions context header)).bind fun s => (decode bytes).bind (moduleOfText s)

theorem isReported_of_documentedModule {f : Fault}
    (hvalue : ∀ f, baseSettings t config = .error f → isReported f = true)
    (h : documentedModule t bytes config context header = .error f) : isReported f = true := by
  rcases bind_eq_error h with h | ⟨s, -, h⟩
  · rcases bind_eq_error h with h | ⟨base, -, h⟩
    · exact hvalue f h
    · exact isReported_of_withOptions h
  · rcases bind_eq_error h with h | ⟨text, -, h⟩
    · exact isReported_of_decode h
    · exact isReported_of_moduleOfText h

/-- the run of the command with readable files, as it was made for all of them -/
theorem run_generate_of_read {out : Option String} (hout : ∀ path, out = some path → hasNul path = false)
    (config : Option String) (context header : Option Str) (verbose : Bool) (hschema : t.read schema = .ok bytes)
    (hconfig : ∀ path, config = some path → ∃ content, t.read path = .ok content) :
    ∃ log, ((Invocation.generate schema out config context header verbose).run : StateM Tree Ending) t =
      match documentedModule t bytes config context header with
      | .error f => (failed verbose log f, t)
      | .ok text => delivering verbose log out text t := by
  have hemission : emission t schema = fun s : Settings Str => (decode bytes).bind (moduleOfText s) :=
    funext fun s => emission_of_read (read_showPath hschema) s
  have hstopped : stopped? t schema out config = none := by
    rw [stopped?_of_read hschema hconfig]
    cases out with
    | none => rfl
    | some path =>
      rw [Option.bind_some, stoppedAt?, hout path rfl]
      rfl
  obtain ⟨log, hgenerate⟩ := runGenerate_apply schema out config context header verbose t
  rw [commandModule, hemission, ← documentedModule] at hgenerate
  refine ⟨log, ?_⟩
  rw [run_generate_apply, hstopped]
  exact hgenerate

/-- **The command does what generating from the text does.** A path with a NUL ends it before it does anything. Otherwise, if
there is a module that is a text, the command ends with code 0: without a path the module is all that is piped, up to control
sequences for a screen; with a path nothing is piped and the file is the module, unless it cannot be written. If there is
none, the first fault on the way, of the config file, the options, the encoding, the syntax or a definition, ends it with
code 1: it is reported, nothing is piped and nothing changes. -/
theorem run_generate (out config : Option String) (context header : Option Str) (verbose : Bool)
    (hschema : t.read schema = .ok bytes)
    (hconfig : ∀ path, config = some path → ∃ content, t.read path = .ok content)
    (hvalue : ∀ f, baseSettings t config = .error f → isReported f = true) :
    let run := ((Invocation.generate schema out config context header verbose).run : StateM Tree Ending) t
    (∀ path, out = some path → hasNul path = true → run = (.fault (.file ⟨.nulByte, path⟩), t)) ∧
      ((∀ path, out = some path → hasNul path = false) → ∃ log,
        match documentedModule t bytes config context header with
        | .error f => run = (.report ⟨1, "", logText verbose log ++ labelled "Error: " (faultText f)⟩, t)
        | .ok text =>
          match out with
          | none => IsPiped verbose log t run text
          | some path => IsWritten verbose log t path run text) := by
  intro run
  constructor
  · rintro path rfl hnul
    have hstopped : stopped? t schema (some path) config = some (.fault (.file ⟨.nulByte, path⟩)) := by
      rw [stopped?_of_read hschema hconfig, Option.bind_some, stoppedAt?, hnul]
      rfl
    have happly := run_generate_apply schema (some path) config context header verbose t
    rw [hstopped] at happly
    exact happly
  · intro hout
    obtain ⟨log, hrun⟩ := run_generate_of_read hout config context header verbose hschema hconfig
    refine ⟨log, ?_⟩
    change run = _ at hrun
    rw [hrun]
    cases hmodule : documentedModule t bytes config context header with
    | error f =>
      have hreported := isReported_of_documentedModule hvalue hmodule
      simp only [failed, hreported, if_true]
    | ok text =>
      dsimp only
      cases out with
      | none => exact isPiped_delivering verbose log t text
      | some path => exact isWritten_delivering verbose log t path text

end

/-- the text of a schema and the text of a config file that gives the context only -/
def typeText : List Char := "type A".toList

def contextText : List Char := "\x7b\x22context\x22: \x22C\x22\x7d".toList

/-- a tree with both files -/
def projectTree : Tree :=
  ⟨[(["s.graphql"], .file (encode (String.ofList typeText))), (["c.json"], .file (encode (String.ofList contextText)))]⟩

theorem read_projectTree_schema : projectTree.read "s.graphql" = .ok (encode (String.ofList typeText)) := by
  have hlocate : projectTree.locate "s.graphql" = .ok ["s.graphql"] := rfl
  rw [Tree.read, hlocate]
  rfl

theorem read_projectTree_config : projectTree.read "c.json" = .ok (encode (String.ofList contextText)) := by
  have hlocate : projectTree.locate "c.json" = .ok ["c.json"] := rfl
  rw [Tree.read, hlocate]
  rfl

/-- the settings of the config file with an empty header instead of the default one -/
def projectSettings : Settings := ⟨"C", "", "\t", by decide⟩

/-- the settings of the config file -/
def contextSettings : Settings := ⟨"C", Settings.defaultHeader, "\t", by decide⟩

theorem baseSettings_projectTree : baseSettings projectTree (some "c.json") = .ok contextSettings.strings := by
  have hformat : formatOf (showPath "c.json") = .json := rfl
  have hvalue : (Settings.ofText .json contextText).toOption = some contextSettings.strings := by decide +kernel
  have hdecode : decode (encode (String.ofList contextText)) = .ok contextText := decode_encode (by decide)
  rw [baseSettings, read_showPath read_projectTree_config]
  simp only [Except.mapError, Except.bind, hdecode, settingsOf, hformat]
  cases hsettings : Settings.ofText .json contextText with
  | error f =>
    rw [hsettings] at hvalue
    cases hvalue
  | ok s =>
    rw [hsettings] at hvalue
    rw [Option.some.inj hvalue]

theorem run_generate_project :
    projectTree.read "s.graphql" = .ok (encode (String.ofList typeText)) ∧
      projectTree.read "c.json" = .ok (encode (String.ofList contextText)) ∧
      ∃ text log, moduleOfText projectSettings typeText = .ok text ∧
        ((Invocation.generate "s.graphql" none (some "c.json") none (some (.text "")) true).run : StateM Tree Ending)
            projectTree =
          (.report ⟨0, Screen.piped text, logText true log⟩, projectTree) := by
  refine ⟨read_projectTree_schema, read_projectTree_config, ?_⟩
  obtain ⟨text, htext⟩ : ∃ text, moduleOfText projectSettings typeText = .ok text := exists_of_isOk (by decide +kernel)
  have hdecode : decode (encode (String.ofList typeText)) = .ok typeText := decode_encode (by decide)
  have hmodule : documentedModule projectTree (encode (String.ofList typeText)) (some "c.json") none (some (.text "")) =
      .ok (.text text) := by
    have hstrings : moduleOfText projectSettings.strings typeText = .ok (.text text) := by
      rw [moduleOfText_strings, htext, Except.map]
    rw [documentedModule, baseSettings_projectTree, hdecode]
    exact hstrings
  obtain ⟨-, hrun⟩ := run_generate none (some "c.json") none (some (.text "")) true read_projectTree_schema
    (fun path hpath => by obtain rfl := Option.some.inj hpath; exact ⟨_, read_projectTree_config⟩)
    (fun f hf => by rw [baseSettings_projectTree] at hf; cases hf)
  obtain ⟨log, hpiped⟩ := hrun fun path hpath => by cases hpath
  rw [hmodule] at hpiped
  exact ⟨text, log, htext, hpiped.1⟩

/-- settings with a header that is a sequence for colours -/
def colourSettings : Settings := { Settings.default with header := "\x1b[31m" }

/-- a sequence in the header is one in the module -/
theorem hasSequence_of_header {s : Settings} {text : List Char} {out : String} (h : moduleOfText s text = .ok out)
    (hheader : Screen.HasSequence s.header.toList) : Screen.HasSequence out.toList := by
  obtain ⟨ds, -, rfl⟩ := moduleOfText_eq_ok_iff.1 h
  simp only [preamble, String.toList_append, List.append_assoc]
  exact hheader.append _

/-- a header that is a sequence for colours is not piped -/
theorem not_run_generate_verbatim :
    ¬ ∀ (t : Tree) (schema : String) (bytes : ByteArray) (header : Option Str) (text : String),
      t.read schema = .ok bytes → documentedModule t bytes none none header = .ok (.text text) →
      ∃ screen, ((Invocation.generate schema none none none header false).run : StateM Tree Ending) t =
        (.report ⟨0, text, screen⟩, t) := by
  intro h
  have hdecode : decode (encode (String.ofList typeText)) = .ok typeText := decode_encode (by decide)
  obtain ⟨text, htext⟩ : ∃ text, moduleOfText colourSettings typeText = .ok text := exists_of_isOk (by decide +kernel)
  have hmodule : documentedModule projectTree (encode (String.ofList typeText)) none none (some (.text "\x1b[31m")) =
      .ok (.text text) := by
    have hstrings : moduleOfText colourSettings.strings typeText = .ok (.text text) := by
      rw [moduleOfText_strings, htext, Except.map]
    rw [documentedModule, hdecode]
    exact hstrings
  obtain ⟨screen, hverbatim⟩ := h projectTree "s.graphql" _ (some (.text "\x1b[31m")) text read_projectTree_schema hmodule
  have hnone : ∀ path, (none : Option String) = some path → hasNul path = false := fun path hpath => by cases hpath
  obtain ⟨log, hrun⟩ := run_generate_of_read hnone none none (some (.text "\x1b[31m")) false read_projectTree_schema
    fun path hpath => by cases hpath
  rw [hmodule] at hrun
  have hpiped : Screen.piped text = text :=
    congrArg Report.output (Ending.report.inj (Prod.mk.inj (hrun.symm.trans hverbatim)).1)
  have hheader : Screen.HasSequence colourSettings.header.toList := ⟨[], _, rfl, by decide⟩
  exact (Screen.piped_eq_self_iff text).1 hpiped (hasSequence_of_header htext hheader)

end SchemaTypings.Command
