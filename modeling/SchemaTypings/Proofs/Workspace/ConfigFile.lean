/-
How loading a config file can end, and what the command line makes of it.

A file with a text gives settings or a fault of its own (`loadSettings_of_read`). The fault is reported by a message with
the path, unless the text is one of those that `Settings.IsUncaught` describes: then it is left to the caller, and the
command line does not report it (`loadSettings_outcome`). `not_loadSettings_documented` is such a file.
-/
import Mathlib.Tactic
import SchemaTypings.Command.Run
import SchemaTypings.Proofs.Config.Faults
import SchemaTypings.Proofs.Workspace.Work

namespace SchemaTypings.Workspace

open SchemaTypings.Config (Settings)
open SchemaTypings.Command
open SchemaTypings.Text (Str)

variable {path : String} {t : Tree} {bytes : ByteArray} {text : List Char}

/-! ## Messages -/

theorem isReported_config (f : Config.FileFault) : isReported (.config path f) = f.isExpected := by
  cases f <;> rfl

def configStart (path : String) : List Char := ("Invalid config " ++ path).toList

theorem configStart_prefix {f : Config.FileFault} (h : f.isExpected = true) :
    configStart path <+: (faultText (.config path f)).toList := by
  have hself : configStart path <+: ("Invalid config " ++ path).toList := List.prefix_refl _
  cases f with
  | keyNotText => cases h
  | breakdown b => cases h
  | notMapping typeName =>
    show configStart path <+: ("Invalid config " ++ path ++ ": expected a mapping, got " ++ typeName).toList
    rw [String.toList_append, String.toList_append, List.append_assoc]
    exact List.prefix_append _ _
  | illFormed => exact hself
  | keyNotUnicode => exact hself
  | invalid problems => exact hself

/-- how loading a config file may end: with settings, or with a fault that is reported by a message with the path -/
def Documented (path : String) : Except Fault (Settings Str) → Prop
  | .ok s => s.context ≠ ""
  | .error f => (∃ g, f = .config path g) ∧ configStart path <+: (faultText f).toList ∧ isReported f = true

section

variable [Yaml.Stack]

/-! ## Loading -/

theorem loadSettings_of_read (hread : t.read (showPath path) = .ok bytes) (hdecode : decode bytes = .ok text) :
    (loadSettings path : Work (Settings Str)) t = (settingsOf (showPath path) text, t) := by
  rw [loadSettings_apply, hread]
  simp [hdecode]

theorem documented_iff : Documented path (settingsOf path text) ↔ ¬ Settings.IsUncaught (formatOf path) text := by
  rw [Settings.isUncaught_iff, settingsOf]
  cases hsettings : Settings.ofText (formatOf path) text with
  | ok s =>
    have hnone : ¬ ∃ f, (Except.ok s : Except Config.FileFault (Settings Str)) = .error f ∧ f.isExpected = false := by
      rintro ⟨f, hf, _⟩
      cases hf
    exact ⟨fun _ => hnone, fun _ => s.context_ne⟩
  | error f =>
    constructor
    · rintro ⟨_, _, hreported⟩ ⟨g, hg, hexpected⟩
      cases hg
      rw [isReported_config, hexpected] at hreported
      cases hreported
    · intro hnone
      have hexpected : f.isExpected = true := by
        by_contra hf
        exact hnone ⟨f, rfl, Bool.eq_false_of_not_eq_true hf⟩
      exact ⟨⟨f, rfl⟩, configStart_prefix hexpected, by rw [isReported_config, hexpected]⟩

/-! ## The command line -/

theorem runGenerate_of_fault {f : Fault} (h : (loadSettings path : Work (Settings Str)) t = (.error f, t)) (schema : String)
    (out : Option String) (context header : Option Str) (verbose : Bool) :
    (runGenerate schema out (some path) context header verbose : StateM Tree Ending) t = (failed verbose [] f, t) := by
  have hsettings : (settingsFor (some path) context header : Work (Settings Str)) t = (.error f, t) := by
    rw [settingsFor, bind_apply, h]
    rfl
  rw [runGenerate, bind_apply, hsettings]
  rfl

/-! ## Outcomes -/

/-- **How loading a config file ends.** The file of any text is left as it is. It gives settings, or a fault that is
reported with the path; only a YAML text whose reading breaks off, in a scalar or since there is no more room on the
stack, or with a key of the mapping that is no string, has another outcome, however much room there is. The command line
ends with code 1 and the message if the fault is reported, and else leaves the fault to the caller. -/
theorem loadSettings_outcome (hread : t.read (showPath path) = .ok bytes) (hdecode : decode bytes = .ok text) :
    ∃ r, (loadSettings path : Work (Settings Str)) t = (r, t) ∧
      (Documented (showPath path) r ↔ ¬ (formatOf path = .yaml ∧ Settings.IsUncaught .yaml text)) ∧
        ∀ f, r = .error f → ∀ schema out context header verbose,
          (runGenerate schema out (some path) context header verbose : StateM Tree Ending) t =
            (if isReported f then .report ⟨1, "", labelled "Error: " (faultText f)⟩ else .fault f, t) := by
  have hload := loadSettings_of_read hread hdecode
  refine ⟨settingsOf (showPath path) text, hload, ?_, ?_⟩
  · rw [documented_iff, formatOf_showPath]
    cases hformat : formatOf path with
    | yaml => simp
    | json => simp [Settings.not_isUncaught_json]
  · intro f hf schema out context header verbose
    rw [hf] at hload
    have hnothing : logText verbose [] = "" := by cases verbose <;> rfl
    rw [runGenerate_of_fault hload, failed, hnothing, String.empty_append]

end

/-- the text of a mapping with a number for a key -/
def numberedText : List Char := "1: x\n".toList

def numberedTree : Tree := ⟨[(["a.yaml"], .file (encode (String.ofList numberedText)))]⟩

theorem read_numberedTree : numberedTree.read (showPath "a.yaml") = .ok (encode (String.ofList numberedText)) := by
  have hshow : showPath "a.yaml" = "a.yaml" := rfl
  have hlocate : numberedTree.locate "a.yaml" = .ok ["a.yaml"] := rfl
  rw [hshow, Tree.read, hlocate]
  rfl

theorem decode_numberedText : decode (encode (String.ofList numberedText)) = .ok numberedText :=
  decode_encode (by decide)

theorem isUncaught_numberedText : formatOf "a.yaml" = .yaml ∧ Settings.IsUncaught .yaml numberedText := by
  have hvalue : (Settings.valueOf .yaml numberedText).toOption = some (.mapping [(.other, .text "x")]) := by
    decide +kernel
  refine ⟨rfl, .inr ⟨[(.other, .text "x")], ?_, (.other, .text "x"), List.mem_cons_self, rfl⟩⟩
  cases hv : Settings.valueOf .yaml numberedText with
  | error f =>
    rw [hv] at hvalue
    cases hvalue
  | ok v =>
    rw [hv] at hvalue
    rw [Option.some.inj hvalue]

theorem loadSettings_outcome_numbered :
    numberedTree.read (showPath "a.yaml") = .ok (encode (String.ofList numberedText)) ∧
      decode (encode (String.ofList numberedText)) = .ok numberedText ∧
      ∃ r, (loadSettings "a.yaml" : Work (Settings Str)) numberedTree = (r, numberedTree) ∧ ¬ Documented "a.yaml" r := by
  refine ⟨read_numberedTree, decode_numberedText, ?_⟩
  obtain ⟨r, hload, hdocumented, _⟩ := loadSettings_outcome read_numberedTree decode_numberedText
  have hshow : showPath "a.yaml" = "a.yaml" := rfl
  rw [hshow] at hdocumented
  exact ⟨r, hload, fun h => hdocumented.1 h isUncaught_numberedText⟩

/-- not every config file that is a text gives settings or a fault that is reported -/
theorem not_loadSettings_documented :
    ¬ ∀ (path : String) (t : Tree) (bytes : ByteArray) (text : List Char), t.read (showPath path) = .ok bytes →
      decode bytes = .ok text → Documented (showPath path) ((loadSettings path : Work (Settings Str)) t).1 := by
  intro h
  have hdocumented := h "a.yaml" numberedTree _ numberedText read_numberedTree decode_numberedText
  rw [loadSettings_of_read read_numberedTree decode_numberedText] at hdocumented
  have huncaught := documented_iff.1 hdocumented
  rw [formatOf_showPath, isUncaught_numberedText.1] at huncaught
  exact huncaught isUncaught_numberedText.2

end SchemaTypings.Workspace
