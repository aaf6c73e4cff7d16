/-
What the command that generates does.

First its paths are looked up (`stopped?`): one with a NUL, or of a file that is not there, ends the run. The settings are
those of the options over those of the config file, field by field (`override_overrides`). With them a module is made of files
that stay as they are, and a fault on the way ends the run (`runGenerate_apply`).
-/
import SchemaTypings.Command.Run
import SchemaTypings.Proofs.Config.Overrides
import SchemaTypings.Proofs.Workspace.Generation

namespace SchemaTypings.Command

open SchemaTypings.Config (Settings Value)
open SchemaTypings.Config.Settings (asStrings)
open SchemaTypings.Text (Str)
open SchemaTypings.Typings (Record)
open SchemaTypings.Workspace

/-! ## Settings -/

/-- settings with the options that are given instead of their fields; a context that is empty or no text is refused -/
def withOptions (context header : Option Str) (s : Settings Str) : Except Fault (Settings Str) :=
  match context with
  | none => .ok ⟨s.context, header.getD s.header, s.indent, s.context_ne⟩
  | some (.unpaired u) => .error (.settings (.unpaired u) (.invalid [⟨Settings.contextKey, .notUnicode⟩]))
  | some (.text c) =>
    if h : c = "" then .error (.settings (.text "") (.invalid [⟨Settings.contextKey, .tooShort⟩]))
    else .ok ⟨c, header.getD s.header, s.indent, h⟩

/-- options as values of the fields -/
def optionValues (context header : Option Str) : Entries Value :=
  (context.toList.map fun s => (Settings.contextKey, .ofStr s)) ++ header.toList.map fun s => (Settings.headerKey, .ofStr s)

theorem isNull_ofStr (s : Str) : (Value.ofStr s).isNull = false := by
  cases s <;> rfl

theorem values_overrides (context header : Option Str) :
    Settings.values (overrides context header) = asStrings (optionValues context header) := by
  have hkept : Settings.values (overrides context header) = overrides context header :=
    List.filter_eq_self.2 fun e he => by
      rcases List.mem_append.1 he with he | he
      all_goals
        obtain ⟨s, _, rfl⟩ := List.mem_map.1 he
        rw [isNull_ofStr]
        rfl
  rw [hkept]
  cases context <;> cases header <;> rfl

/-- options are entries that are put over the fields -/
theorem update_optionValues (s : Settings Str) (context header : Option Str) :
    s.entries.update (optionValues context header) =
      [(Settings.contextKey, .ofStr (context.getD (.text s.context))), (Settings.headerKey, .ofStr (header.getD s.header)),
        (Settings.indentKey, .ofStr s.indent)] := by
  cases context <;> cases header <;> rfl

/-- **Options count before the config file**, field by field. -/
theorem override_overrides (s : Settings Str) (context header : Option Str) :
    (s.override (overrides context header)).mapError (.settings (context.getD (.text ""))) =
      withOptions context header s := by
  have hkey : (overrides context header).get? (.text Settings.reservedKey) = none := by
    cases context <;> cases header <;> rfl
  rw [Settings.override_of_asStrings hkey (values_overrides context header), update_optionValues, Settings.ofEntries_strings]
  cases context with
  | none =>
    simp only [Option.getD_none, dif_neg s.context_ne]
    rfl
  | some c =>
    cases c with
    | unpaired u => rfl
    | text c =>
      dsimp only [Option.getD_some, withOptions]
      split_ifs with hempty
      · rw [hempty]
        rfl
      · rfl

/-! ## Endings -/

/-- ending with a module after a log -/
def succeeded (verbose : Bool) (log : List Record) (text : Str) : Option String → Ending
  | none =>
    match Screen.pipedStr text with
    | .text s => .report ⟨0, s, logText verbose log⟩
    | .unpaired u => .fault (.unencodable u.fault)
  | some path => .report ⟨0, "", logText verbose log ++ labelled "Declarations written: " (showPath path)⟩

/-- how the command ends when it delivers a module, and what is left -/
def delivering (verbose : Bool) (log : List Record) (out : Option String) (text : Str) (t : Tree) : Ending × Tree :=
  (match (deliver out text t).1 with
    | .error f => failed verbose log f
    | .ok text => succeeded verbose log text out,
    (deliver out text t).2)

/-! ## Runs -/

section

variable [Yaml.Stack]

/-- the settings of a config file, or the default ones -/
def baseSettings (t : Tree) : Option String → Except Fault (Settings Str)
  | none => .ok Settings.default.strings
  | some path => (((t.read (showPath path)).mapError .file).bind decode).bind (settingsOf (showPath path))

theorem settingsFor_apply (config : Option String) (context header : Option Str) (t : Tree) :
    (settingsFor config context header : Work (Settings Str)) t =
      ((baseSettings t config).bind (withOptions context header), t) := by
  have hoptions : withOptions context header = fun s : Settings Str =>
      (s.override (overrides context header)).mapError (Fault.settings (context.getD (.text ""))) :=
    funext fun s => (override_overrides s context header).symm
  rw [hoptions]
  cases config with
  | none => rfl
  | some path =>
    rw [settingsFor, bind_apply, loadSettings_apply]
    rfl

/-- the module that the command makes of a config file, its options and a schema file -/
def commandModule (t : Tree) (schema : String) (config : Option String) (context header : Option Str) : Except Fault Str :=
  ((baseSettings t config).bind (withOptions context header)).bind (emission t schema)

/-- **The command makes its module first** and delivers it last, as the generation from a file does. -/
theorem runGenerate_apply (schema : String) (out config : Option String) (context header : Option Str) (verbose : Bool)
    (t : Tree) :
    ∃ log, (runGenerate schema out config context header verbose : StateM Tree Ending) t =
      match commandModule t schema config context header with
      | .error f => (failed verbose log f, t)
      | .ok text => delivering verbose log out text t := by
  rw [runGenerate, bind_apply, settingsFor_apply, commandModule]
  cases (baseSettings t config).bind (withOptions context header) with
  | error f => exact ⟨_, rfl⟩
  | ok s =>
    obtain ⟨log, hgenerate⟩ := generate_apply schema out s t
    dsimp only [Except.bind]
    rw [bind_apply, hgenerate]
    cases emission t schema s with
    | error f => exact ⟨log, rfl⟩
    | ok text =>
      refine ⟨log, ?_⟩
      dsimp only [delivering]
      cases deliver out text t with
      | mk r t' =>
        cases r with
        | error f => rfl
        | ok text =>
          cases out with
          | none =>
            dsimp only [succeeded]
            cases Screen.pipedStr text <;> rfl
          | some path => rfl

end

/-! ## Paths -/

/-- how a path ends the run if it is looked up: with a NUL, or as that of a file that is not there -/
def stoppedAt? (t : Tree) (path : String) (isFile : Bool) : Option Ending :=
  if hasNul path then some (.fault (.file ⟨.nulByte, path⟩))
  else if isFile && t.kind? path ≠ some .file then some .usage
  else none

/-- how the paths of the command end the run, if one of them does -/
def stopped? (t : Tree) (schema : String) (out config : Option String) : Option Ending :=
  (lookedUp schema out config).findSome? fun p => stoppedAt? t p.1 p.2

theorem lookUp_apply (path : String) (isFile : Bool) (t : Tree) :
    (lookUp path isFile : StateM Tree (Option Ending)) t = (stoppedAt? t path isFile, t) := by
  rw [lookUp, stoppedAt?]
  cases hasNul path with
  | true => rfl
  | false =>
    cases isFile with
    | false => rfl
    | true =>
      simp only [Bool.false_eq_true, ↓reduceIte, Bool.true_and, bind_apply, kind?_apply]
      cases decide (t.kind? path ≠ some .file) <;> rfl

/-- what is looked for without a change is found without one -/
theorem findSomeM?_apply {α β : Type} {f : α → StateM Tree (Option β)} {g : α → Option β} {t : Tree}
    (hf : ∀ a, f a t = (g a, t)) (as : List α) : (as.findSomeM? f : StateM Tree (Option β)) t = (as.findSome? g, t) := by
  induction as with
  | nil => rfl
  | cons a as ih =>
    rw [List.findSomeM?, bind_apply, hf, List.findSome?_cons]
    cases g a with
    | some b => rfl
    | none => exact ih

/-- a path that is stopped at ends the command before it does anything -/
theorem run_generate_apply [Yaml.Stack] (schema : String) (out config : Option String) (context header : Option Str) (verbose : Bool)
    (t : Tree) :
    ((Invocation.generate schema out config context header verbose).run : StateM Tree Ending) t =
      match stopped? t schema out config with
      | some ending => (ending, t)
      | none => (runGenerate schema out config context header verbose : StateM Tree Ending) t := by
  have hpaths : ((lookedUp schema out config).findSomeM? fun p : String × Bool => lookUp p.1 p.2 :
      StateM Tree (Option Ending)) t = (stopped? t schema out config, t) :=
    findSomeM?_apply (fun p : String × Bool => lookUp_apply p.1 p.2 t) _
  rw [Invocation.run, bind_apply, hpaths]
  cases stopped? t schema out config <;> rfl

end SchemaTypings.Command
