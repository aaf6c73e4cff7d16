/-
Calls one after the other on the files of a tree.

`Call.Effect` is what one call may do to a tree, and `perform_effect` says that each call does no more, with one case for
each sort of call. So a call that fails before it writes leaves the tree as it was, and a run of calls changes only the
files of their own paths, and makes only directories that were missing on the way to them (`calls_frame`). A module that is
no text has no bytes: the file that it is to be written to is left empty, and the call fails.
-/
import SchemaTypings.Proofs.Command.Generate
import SchemaTypings.Proofs.Workspace.Frame

namespace SchemaTypings.Command

open SchemaTypings.Config (Settings)
open SchemaTypings.Schema (Definition)
open SchemaTypings.Text (Str TextLike)
open SchemaTypings.Workspace

/-- work on the files of a tree that is asked for -/
inductive Call where
  | loadSettings (path : String)
  | loadSchema (path : String)
  | saveSettings (s : Settings Str) (path : String)
  | generate (schema : String) (out : Option String) (s : Settings Str)
  | command (schema : String) (out config : Option String) (context header : Option Str) (verbose : Bool)

namespace Call

/-- the path that a call delivers a module to -/
def delivery? : Call → Option String
  | .generate _ out _ => out
  | .command _ out _ _ _ _ => out
  | _ => none

/-- the path of the file that a call writes -/
def out? : Call → Option String
  | .saveSettings _ path => some path
  | c => c.delivery?

end Call

inductive Outcome where
  | settings (r : Except Fault (Settings Str))
  | definitions (r : Except Fault (List (Definition String)))
  | saved (r : Except Fault Unit)
  | generated (r : Except Fault Str)
  | ended (e : Ending)

/-- whether a fault can come from writing: one of a file can, and so can that of a module that is no text -/
def isWriteFault : Fault → Bool
  | .file _ => true
  | .unencodable _ => true
  | _ => false

/-- whether a call has ended before anything is written: loading has, and so have calls that fail, but for faults of
writing in calls that generate. The command writes no module that is left to the caller as no text, since it pipes it -/
def Outcome.isUnwritten : Outcome → Bool
  | .settings _ => true
  | .definitions _ => true
  | .saved r => !r.isOk
  | .generated (.ok _) => false
  | .generated (.error f) => !isWriteFault f
  | .ended .usage => true
  | .ended (.report r) => r.code ≠ 0
  | .ended (.fault (.file _)) => false
  | .ended (.fault _) => true

def Outcome.isDelivered : Outcome → Bool
  | .generated (.ok _) => true
  | .ended (.report r) => r.code = 0
  | _ => false

variable {t : Tree}

theorem isWriteFault_of_deliver {out : Option String} {text : Str} {f : Fault} (h : (deliver out text t).1 = .error f) :
    isWriteFault f = true := by
  rcases deliver_eq_error h with ⟨g, rfl⟩ | ⟨u, _, rfl⟩
  · rfl
  · rfl

theorem failed_isDelivered (verbose : Bool) (log : List Typings.Record) (f : Fault) :
    (Outcome.ended (failed verbose log f)).isDelivered = false := by
  unfold failed
  split_ifs
  · rfl
  · rfl

theorem isDelivered_of_stopped {schema : String} {out config : Option String} {ending : Ending}
    (h : stopped? t schema out config = some ending) : (Outcome.ended ending).isDelivered = false := by
  obtain ⟨p, _, hp⟩ := List.exists_of_findSome?_eq_some h
  unfold stoppedAt? at hp
  split_ifs at hp
  · obtain rfl := Option.some.inj hp
    rfl
  · obtain rfl := Option.some.inj hp
    rfl

/-- the command that fails to deliver a module and has it reported has a module that is no text -/
theorem unpaired_of_failed {out : Option String} {text : Str} {f : Fault} (h : (deliver out text t).1 = .error f)
    {verbose : Bool} {log : List Typings.Record} (hunwritten : (Outcome.ended (failed verbose log f)).isUnwritten = true) :
    ∃ r u, Outcome.ended (failed verbose log f) = .ended (.report r) ∧ text = .unpaired u := by
  rcases deliver_eq_error h with ⟨g, rfl⟩ | ⟨u, hu, rfl⟩
  · cases hunwritten
  · exact ⟨_, u, rfl, hu⟩

/-- a module that is piped is delivered or left, and nothing is written for it -/
theorem out_of_succeeded {out : Option String} {text : Str} {verbose : Bool} {log : List Typings.Record}
    (hunwritten : (Outcome.ended (succeeded verbose log text out)).isUnwritten = true) : out = none := by
  cases out with
  | none => rfl
  | some path => cases hunwritten

section

variable [Yaml.Stack]

namespace Call

def perform : Call → StateM Tree Outcome
  | .loadSettings path => do return .settings (← Workspace.loadSettings path)
  | .loadSchema path => do return .definitions (← Workspace.loadSchema path).1
  | .saveSettings s path => do return .saved (← Workspace.saveSettings s path)
  | .generate schema out s => do return .generated (← Workspace.generate schema out s).1
  | .command schema out config context header verbose => do
    return .ended (← (Invocation.generate schema out config context header verbose).run)

/-- the module that a call makes of the files of a tree, if it gets so far -/
def module? (t : Tree) : Call → Option Str
  | .generate schema _ s => (emission t schema s).toOption
  | .command schema _ config context header _ => (commandModule t schema config context header).toOption
  | _ => none

end Call

/-- what a call may do to a tree: it changes files and makes directories for its own path only; it leaves the tree as it
was unless it writes, and makes no way for a module that there is not; the file it delivers has the module for content. A
report of the command does not tell whether it failed at a module that is no text, so this is left open -/
structure Call.Effect (c : Call) (t : Tree) (o : Outcome) (t' : Tree) : Prop where
  frame : Frame (c.out? = some ·) (c.delivery? = some ·) t t'
  unwritten : o.isUnwritten = true → t' = t ∨ ∃ r u, o = .ended (.report r) ∧ c.module? t = some (.unpaired u)
  emitted : c.delivery?.isSome = true → t' ≠ t → (c.module? t).isSome = true
  delivered : o.isDelivered = true → ∃ text, c.module? t = some text ∧
    (∀ r, o = .generated r → r = .ok text) ∧
    ∀ path, c.out? = some path → ∃ s, text = .text s ∧ t'.read (showPath path) = .ok (encode s)

/-- calls that only read -/
theorem effect_of_unchanged {c : Call} {o : Outcome} (h : o.isDelivered = false) : c.Effect t o t where
  frame := .refl _ _ t
  unwritten := fun _ => .inl rfl
  emitted := fun _ hne => absurd rfl hne
  delivered := fun hdelivered => by
    rw [h] at hdelivered
    cases hdelivered

/-- calls that deliver a module, or fail to -/
theorem effect_of_deliver {c : Call} {o : Outcome} {out : Option String} {text : Str} (hout : c.out? = out)
    (hdelivery : c.delivery? = out) (hmodule : c.module? t = some text)
    (hunwritten : o.isUnwritten = true → out = none ∨ ∃ r u, o = .ended (.report r) ∧ text = .unpaired u)
    (hdelivered : o.isDelivered = true →
      ∃ r, (deliver out text t).1 = .ok r ∧ ∀ r', o = .generated r' → r' = .ok r) :
    c.Effect t o (deliver out text t).2 where
  frame := by
    rw [hout, hdelivery]
    exact deliver_frame out text t
  unwritten := fun h => by
    rcases hunwritten h with rfl | ⟨r, u, ho, rfl⟩
    · exact .inl rfl
    · exact .inr ⟨r, u, ho, hmodule⟩
  emitted := fun _ _ => by rw [hmodule]; rfl
  delivered := fun h => by
    obtain ⟨r, hr, hgenerated⟩ := hdelivered h
    obtain ⟨rfl, hfile⟩ := deliver_eq_ok hr
    exact ⟨r, hmodule, hgenerated, fun path hpath => hfile path (hout.symm.trans hpath)⟩

theorem saveSettings_effect (s : Settings Str) (path : String) (t : Tree) :
    (Call.saveSettings s path).Effect t ((Call.saveSettings s path).perform t).1 ((Call.saveSettings s path).perform t).2 := by
  rw [Call.perform, bind_apply, saveSettings_apply]
  cases hwrite : t.write (showPath path) (encode (String.ofList (s.toText (formatOf path)))) with
  | error f => exact effect_of_unchanged rfl
  | ok t' =>
    refine ⟨frame_of_write rfl hwrite, ?_, ?_, ?_⟩
    · intro hunwritten
      cases hunwritten
    · intro hdelivery
      cases hdelivery
    · intro hdelivered
      cases hdelivered

theorem generate_effect (schema : String) (out : Option String) (s : Settings Str) (t : Tree) :
    (Call.generate schema out s).Effect t ((Call.generate schema out s).perform t).1
      ((Call.generate schema out s).perform t).2 := by
  obtain ⟨log, hgenerate⟩ := generate_apply schema out s t
  rw [Call.perform, bind_apply, hgenerate]
  cases hmodule : emission t schema s with
  | error f => exact effect_of_unchanged rfl
  | ok text =>
    have hmodule? : (Call.generate schema out s).module? t = some text := by
      rw [Call.module?, hmodule]
      rfl
    refine effect_of_deliver rfl rfl hmodule? ?_ ?_
    · show (Outcome.generated (deliver out text t).1).isUnwritten = true → _
      cases hdeliver : (deliver out text t).1 with
      | error f =>
        rw [Outcome.isUnwritten, isWriteFault_of_deliver hdeliver]
        intro hunwritten
        cases hunwritten
      | ok r =>
        intro hunwritten
        cases hunwritten
    · show (Outcome.generated (deliver out text t).1).isDelivered = true → _
      cases hdeliver : (deliver out text t).1 with
      | error f =>
        intro hdelivered
        cases hdelivered
      | ok r => exact fun _ => ⟨r, rfl, fun r' hr' => (Outcome.generated.inj hr').symm⟩

theorem command_effect (schema : String) (out config : Option String) (context header : Option Str) (verbose : Bool)
    (t : Tree) :
    (Call.command schema out config context header verbose).Effect t
      ((Call.command schema out config context header verbose).perform t).1
      ((Call.command schema out config context header verbose).perform t).2 := by
  rw [Call.perform, bind_apply, run_generate_apply]
  cases hstopped : stopped? t schema out config with
  | some ending => exact effect_of_unchanged (isDelivered_of_stopped hstopped)
  | none =>
    obtain ⟨log, hrun⟩ := runGenerate_apply schema out config context header verbose t
    dsimp only
    rw [hrun]
    cases hmodule : commandModule t schema config context header with
    | error f => exact effect_of_unchanged (failed_isDelivered verbose log f)
    | ok text =>
      have hmodule? : (Call.command schema out config context header verbose).module? t = some text := by
        rw [Call.module?, hmodule]
        rfl
      refine effect_of_deliver rfl rfl hmodule? ?_ ?_
      · dsimp only [delivering]
        cases hdeliver : (deliver out text t).1 with
        | error f => exact fun hunwritten => .inr (unpaired_of_failed hdeliver hunwritten)
        | ok r => exact fun hunwritten => .inl (out_of_succeeded hunwritten)
      · dsimp only [delivering]
        cases hdeliver : (deliver out text t).1 with
        | error f =>
          intro (hdelivered : (Outcome.ended (failed verbose log f)).isDelivered = true)
          rw [failed_isDelivered] at hdelivered
          cases hdelivered
        | ok r => exact fun _ => ⟨r, rfl, fun r' hr' => by cases hr'⟩

/-- **Each call does what it may.** -/
theorem perform_effect (c : Call) (t : Tree) : c.Effect t (c.perform t).1 (c.perform t).2 := by
  cases c with
  | loadSettings path =>
    rw [Call.perform, bind_apply, loadSettings_apply]
    exact effect_of_unchanged rfl
  | loadSchema path =>
    obtain ⟨log, hload⟩ := loadSchema_apply path t
    rw [Call.perform, bind_apply, hload]
    exact effect_of_unchanged rfl
  | saveSettings s path => exact saveSettings_effect s path t
  | generate schema out s => exact generate_effect schema out s t
  | command schema out config context header verbose => exact command_effect schema out config context header verbose t

/-! ## Runs -/

def runCalls : List Call → Tree → Tree
  | [], t => t
  | c :: cs, t => runCalls cs (c.perform t).2

/-- whether calls in a row have their effects, each on the tree that those before it leave -/
def Effects : List Call → Tree → Prop
  | [], _ => True
  | c :: cs, t => c.Effect t (c.perform t).1 (c.perform t).2 ∧ Effects cs (c.perform t).2

/-- **Calls in a row change no more than each of them.** Whatever tree they start with, and whatever they are given: each
call has its effect, and all together keep what was there, but for the files that their own paths lead to in the end; and
what directories are new were missing on the way to a module. -/
theorem calls_frame (calls : List Call) (t : Tree) :
    Effects calls t ∧
      Frame (fun path => ∃ c ∈ calls, c.out? = some path) (fun path => ∃ c ∈ calls, c.delivery? = some path) t
        (runCalls calls t) := by
  induction calls generalizing t with
  | nil => exact ⟨trivial, .refl _ _ t⟩
  | cons c calls ih =>
    have hfirst := perform_effect c t
    obtain ⟨heffects, hrest⟩ := ih (c.perform t).2
    refine ⟨⟨hfirst, heffects⟩, Frame.trans (hfirst.frame.mono ?_ ?_) (hrest.mono ?_ ?_)⟩
    · exact fun path hpath => ⟨c, List.mem_cons_self, hpath⟩
    · exact fun path hpath => ⟨c, List.mem_cons_self, hpath⟩
    · exact fun path ⟨d, hd, hpath⟩ => ⟨d, List.mem_cons_of_mem c hd, hpath⟩
    · exact fun path ⟨d, hd, hpath⟩ => ⟨d, List.mem_cons_of_mem c hd, hpath⟩

end

end SchemaTypings.Command
