/-
The emission of a document, definition by definition.

`Emission.step` adds one definition: its kind is logged, and then its declaration is put after the text so far, unless it
has none. `run` does so for a list of definitions, and `moduleText` is a run from the header and the helpers
(`moduleText_eq_run`). A fault ends a run for good (`run_of_error`), and definitions that all have declarations only add
text and records (`run_of_declared`). So the first definition without a declaration decides, and nothing after it shows
(`moduleText_emission`).
-/
import Mathlib.Tactic
import SchemaTypings.Proofs.Text.Strings
import SchemaTypings.Typings.Module

namespace SchemaTypings.Typings

open SchemaTypings.Schema
open SchemaTypings.Text (TextLike)
open SchemaTypings.Text.TextLike (ofText)

variable {τ : Type} [TextLike τ]

/-- how far an emission has come: the text so far, or the fault that ended it, and what is logged -/
structure Emission (τ : Type) where
  result : Except Fault τ
  log : List Record

/-- declarations one after the other, each with an empty line after it -/
def joined (texts : List τ) : τ := TextLike.join (texts.map (· ++ ofText "\n"))

/-- the records of definitions that are emitted -/
def emittingEach (ds : List (Definition Slot)) : List Record := ds.map fun d => .emitting d.kind

namespace Emission

variable {indent text : τ} {log : List Record}

/-- header and helpers, and the number of definitions -/
def start (context : String) (header : τ) (count : Nat) : Emission τ :=
  ⟨.ok (header ++ ofText "\n" ++ ofText (helperTypes context)), [.emittingAll count]⟩

/-- one definition is emitted, unless a fault came before it -/
def step (indent : τ) (e : Emission τ) (d : Definition Slot) : Emission τ :=
  match e.result with
  | .error _ => e
  | .ok text => ⟨(declare indent d).map fun block => text ++ (block ++ ofText "\n"), e.log ++ [.emitting d.kind]⟩

def run (indent : τ) (e : Emission τ) (ds : List (Definition Slot)) : Emission τ := ds.foldl (step indent) e

@[simp]
theorem run_append (indent : τ) (e : Emission τ) (ds es : List (Definition Slot)) :
    run indent e (ds ++ es) = run indent (run indent e ds) es := List.foldl_append

/-- a fault stays, and nothing is logged after it -/
@[simp]
theorem run_of_error {f : Fault} (ds : List (Definition Slot)) :
    run indent ⟨.error f, log⟩ ds = ⟨.error f, log⟩ := by
  induction ds with
  | nil => rfl
  | cons d ds ih => exact ih

theorem step_of_ok {d : Definition Slot} {block : τ} (h : declare indent d = .ok block) :
    step indent ⟨.ok text, log⟩ d = ⟨.ok (text ++ (block ++ ofText "\n")), log ++ [.emitting d.kind]⟩ := by
  simp only [step, h]
  rfl

theorem step_of_error {d : Definition Slot} {f : Fault} (h : declare indent d = .error f) :
    step indent ⟨.ok text, log⟩ d = ⟨.error f, log ++ [.emitting d.kind]⟩ := by
  simp only [step, h]
  rfl

/-- definitions with declarations add these to the text, and their kinds to the log -/
theorem run_of_declared {ds : List (Definition Slot)} {texts : List τ}
    (h : List.Forall₂ (fun d text => declare indent d = .ok text) ds texts) :
    run indent ⟨.ok text, log⟩ ds = ⟨.ok (text ++ joined texts), log ++ emittingEach ds⟩ := by
  induction h generalizing text log with
  | nil => simp [run, joined, emittingEach]
  | @cons d block ds texts hd _ ih =>
    have hrun : run indent ⟨.ok text, log⟩ (d :: ds) = run indent (step indent ⟨.ok text, log⟩ d) ds := rfl
    rw [hrun, step_of_ok hd, ih]
    simp [joined, emittingEach, TextLike.append_assoc]

/-- what a run adds to a text does not depend on the text -/
theorem run_eq_blocks (ds : List (Definition Slot)) :
    run indent ⟨.ok text, log⟩ ds = ⟨(blocks indent ds).1.map (text ++ ·), log ++ (blocks indent ds).2⟩ := by
  induction ds generalizing text log with
  | nil => simp [run, blocks]
  | cons d ds ih =>
    have hrun : run indent ⟨.ok text, log⟩ (d :: ds) = run indent (step indent ⟨.ok text, log⟩ d) ds := rfl
    rw [hrun, blocks_cons]
    cases hd : declare indent d with
    | error f =>
      rw [step_of_error hd, run_of_error]
      rfl
    | ok block =>
      rw [step_of_ok hd, ih]
      obtain ⟨rest, records⟩ := blocks indent ds
      cases rest <;> simp [TextLike.append_assoc]

end Emission

variable (context : String) (header indent : τ)

/-- **A module is what a run of the emission ends with.** -/
theorem moduleText_eq_run (ds : List (Definition Slot)) :
    moduleText context header indent ds =
      ((Emission.run indent (.start context header ds.length) ds).result,
        (Emission.run indent (.start context header ds.length) ds).log) := by
  rw [Emission.start, Emission.run_eq_blocks, moduleText_eq]
  rfl

theorem forall₂_declared {ds : List (Definition Slot)} (h : ∀ d ∈ ds, (declare indent d).isOk = true) :
    ∃ texts, List.Forall₂ (fun d text => declare indent d = .ok text) ds texts := by
  refine ⟨ds.map fun d => (declare indent d).toOption.getD (ofText ""), ?_⟩
  rw [List.forall₂_map_right_iff, List.forall₂_same]
  intro d hd
  have hok := h d hd
  cases hdeclare : declare indent d with
  | error f =>
    rw [hdeclare] at hok
    cases hok
  | ok text => rfl

/-- the definitions before the first without declaration, and that one -/
theorem exists_of_findIdx? {ds : List (Definition Slot)} {k : Nat}
    (h : ds.findIdx? (fun d => !(declare indent d).isOk) = some k) :
    ∃ d f, ds[k]? = some d ∧ declare indent d = .error f ∧ ds.take (k + 1) = ds.take k ++ [d] ∧
      ∀ d ∈ ds.take k, (declare indent d).isOk = true := by
  obtain ⟨hk, hlast, hbefore⟩ := List.findIdx?_eq_some_iff_getElem.1 h
  cases hdeclare : declare indent ds[k] with
  | ok text =>
    rw [hdeclare] at hlast
    cases hlast
  | error f =>
    refine ⟨ds[k], f, List.getElem?_eq_getElem hk, hdeclare, (List.take_append_getElem hk).symm, ?_⟩
    intro d hd
    obtain ⟨j, hj, rfl⟩ := List.mem_take_iff_getElem.1 hd
    simpa using hbefore j (by omega)

/-- **The emission of a document.** If every definition has a declaration, these stand after the header and the helpers in
their order, and one record is logged for each after the record of their number; what more definitions would add is what
they give by themselves. Otherwise the fault is that of the first definition without one, and the log ends with its kind;
apart from the number in the first record it is the same whatever definitions follow. -/
theorem moduleText_emission (ds : List (Definition Slot)) :
    match ds.findIdx? (fun d => !(declare indent d).isOk) with
    | none =>
      ∃ texts, List.Forall₂ (fun d text => declare indent d = .ok text) ds texts ∧
        moduleText context header indent ds =
          (.ok (header ++ ofText "\n" ++ ofText (helperTypes context) ++ joined texts),
            .emittingAll ds.length :: emittingEach ds) ∧
        ∀ es, moduleText context header indent (ds ++ es) =
          ((blocks indent es).1.map fun body =>
              header ++ ofText "\n" ++ ofText (helperTypes context) ++ joined texts ++ body,
            .emittingAll (ds.length + es.length) :: emittingEach ds ++ (blocks indent es).2)
    | some k =>
      ∃ d f, ds[k]? = some d ∧ declare indent d = .error f ∧
        moduleText context header indent ds =
          (.error f, .emittingAll ds.length :: emittingEach (ds.take (k + 1))) ∧
        ∀ es, moduleText context header indent (ds.take (k + 1) ++ es) =
          (.error f, .emittingAll (k + 1 + es.length) :: emittingEach (ds.take (k + 1))) := by
  cases hfirst : ds.findIdx? fun d => !(declare indent d).isOk with
  | none =>
    have hdeclared : ∀ d ∈ ds, (declare indent d).isOk = true := by
      simpa using List.findIdx?_eq_none_iff.1 hfirst
    obtain ⟨texts, htexts⟩ := forall₂_declared indent hdeclared
    refine ⟨texts, htexts, ?_, fun es => ?_⟩
    · rw [moduleText_eq_run, Emission.start, Emission.run_of_declared htexts]
      rfl
    · rw [moduleText_eq_run, Emission.start, Emission.run_append, Emission.run_of_declared htexts,
        Emission.run_eq_blocks, List.length_append]
      rfl
  | some k =>
    obtain ⟨d, f, hd, hf, htake, hbefore⟩ := exists_of_findIdx? indent hfirst
    obtain ⟨texts, htexts⟩ := forall₂_declared indent hbefore
    have hfault : ∀ es, moduleText context header indent (ds.take (k + 1) ++ es) =
        (.error f, .emittingAll (ds.take (k + 1) ++ es).length :: emittingEach (ds.take (k + 1))) := by
      intro es
      have hrun : ∀ e : Emission τ, Emission.run indent e (ds.take k ++ [d]) =
          Emission.step indent (Emission.run indent e (ds.take k)) d := fun e => Emission.run_append indent e _ [d]
      rw [moduleText_eq_run, Emission.start, Emission.run_append, htake, hrun, Emission.run_of_declared htexts,
        Emission.step_of_error hf, Emission.run_of_error, emittingEach, emittingEach, List.map_append]
      rfl
    have hlength : (ds.take (k + 1)).length = k + 1 := by
      obtain ⟨hk, _⟩ := List.getElem?_eq_some_iff.1 hd
      rw [List.length_take]
      omega
    refine ⟨d, f, hd, hf, ?_, fun es => ?_⟩
    · have hall := hfault (ds.drop (k + 1))
      rwa [List.take_append_drop] at hall
    · rw [hfault, List.length_append, hlength]

end SchemaTypings.Typings
