/-
Where a computation that may be refused stops.

`StopsAt fault culprit x`: with a culprit `x` is its fault, and without one it has a value. A computation made of parts
stops at the culprit of the first part that has one (`StopsAt.bind`, `StopsAt.mapM`), whatever the parts after it are.
-/
import Mathlib.Tactic
import SchemaTypings.Outcome

namespace SchemaTypings

variable {α β γ δ ε : Type} {fault : γ → ε} {c d : Option γ} {x : Except ε α}

theorem exists_of_isOk (h : x.isOk = true) : ∃ a, x = .ok a := by
  cases x with
  | error e => cases h
  | ok a => exact ⟨a, rfl⟩

/-- whether a computation ends with the fault of the culprit, or has a value if there is none -/
def StopsAt (fault : γ → ε) : Option γ → Except ε α → Prop
  | some c, x => x = .error (fault c)
  | none, x => ∃ a, x = .ok a

theorem StopsAt.map (h : StopsAt fault c x) (f : α → β) : StopsAt fault c (x.map f) := by
  cases c with
  | some c =>
    obtain rfl : x = .error (fault c) := h
    exact rfl
  | none =>
    obtain ⟨a, rfl⟩ := h
    exact ⟨f a, rfl⟩

/-- the culprit of the second part counts if the first part has none -/
theorem StopsAt.bind {f : α → Except ε β} (h : StopsAt fault c x) (hf : ∀ a, StopsAt fault d (f a)) :
    StopsAt fault (c.or d) (x >>= f) := by
  cases c with
  | some c =>
    obtain rfl : x = .error (fault c) := h
    exact rfl
  | none =>
    obtain ⟨a, rfl⟩ := h
    exact hf a

theorem StopsAt.pure (a : α) : StopsAt fault none (.ok a : Except ε α) := ⟨a, rfl⟩

/-- **A traversal stops at the first culprit of its elements.** -/
theorem StopsAt.mapM {f : α → Except ε β} {culprit : α → Option γ} (h : ∀ a, StopsAt fault (culprit a) (f a))
    (as : List α) : StopsAt fault (as.findSome? culprit) (as.mapM f) := by
  induction as with
  | nil => exact .pure []
  | cons a as ih =>
    have hcons : (a :: as).findSome? culprit = (culprit a).or ((as.findSome? culprit).or none) := by
      rw [List.findSome?_cons, Option.or_none]
      cases culprit a <;> rfl
    rw [List.mapM_cons, hcons]
    exact (h a).bind fun b => ih.bind fun bs => .pure (b :: bs)

/-- the values of a traversal are those of its elements -/
theorem forall₂_of_mapM {f : α → Except ε β} {as : List α} {bs : List β} (h : as.mapM f = .ok bs) :
    List.Forall₂ (fun a b => f a = .ok b) as bs := by
  induction as generalizing bs with
  | nil =>
    obtain rfl : [] = bs := Except.ok.inj h
    exact .nil
  | cons a as ih =>
    rw [List.mapM_cons] at h
    cases ha : f a with
    | error e =>
      rw [ha] at h
      cases h
    | ok b =>
      rw [ha] at h
      cases has : as.mapM f with
      | error e =>
        rw [has] at h
        cases h
      | ok cs =>
        rw [has] at h
        obtain rfl : b :: cs = bs := Except.ok.inj h
        exact .cons ha (ih has)

/-- a traversal that fails does so at one of the elements -/
theorem exists_of_mapM_eq_error {f : α → Except ε β} {as : List α} {e : ε} (h : as.mapM f = .error e) :
    ∃ a ∈ as, f a = .error e := by
  induction as with
  | nil => cases h
  | cons a as ih =>
    rw [List.mapM_cons] at h
    cases ha : f a with
    | error e' =>
      rw [ha] at h
      cases h
      exact ⟨a, List.mem_cons_self, ha⟩
    | ok b =>
      rw [ha] at h
      cases has : as.mapM f with
      | error e' =>
        rw [has] at h
        cases h
        obtain ⟨c, hc, hf⟩ := ih has
        exact ⟨c, List.mem_cons_of_mem a hc, hf⟩
      | ok bs =>
        rw [has] at h
        cases h

/-- what is done to the faults and the values of the elements may be done to those of the traversal -/
theorem mapM_mapError_map (f : α → Except ε β) (g : ε → δ) (h : β → γ) (as : List α) :
    (as.mapM fun a => ((f a).mapError g).map h) = ((as.mapM f).mapError g).map (List.map h) := by
  induction as with
  | nil => rfl
  | cons a as ih =>
    rw [List.mapM_cons, List.mapM_cons, ih]
    cases f a with
    | error e => rfl
    | ok b => cases as.mapM f <;> rfl

end SchemaTypings
