/-
Values and faults: what the operations on outcomes do with each of them, and where the value of an operation comes from
(`map_eq_ok`, `bind_eq_ok`).
-/
namespace SchemaTypings.Outcome

variable {α β δ ε : Type} (a : α) (e : ε)

@[simp]
theorem map_ok (f : α → β) : (Except.ok a : Except ε α).map f = .ok (f a) := rfl

@[simp]
theorem map_error (f : α → β) : (Except.error e : Except ε α).map f = .error e := rfl

@[simp]
theorem mapError_ok (f : ε → δ) : (Except.ok a : Except ε α).mapError f = .ok a := rfl

@[simp]
theorem mapError_error (f : ε → δ) : (Except.error e : Except ε α).mapError f = .error (f e) := rfl

@[simp]
theorem bind_ok (f : α → Except ε β) : (Except.ok a).bind f = f a := rfl

@[simp]
theorem bind_error (f : α → Except ε β) : (Except.error e).bind f = .error e := rfl

@[simp]
theorem ok_bind (f : α → Except ε β) : (Except.ok a >>= f) = f a := rfl

@[simp]
theorem error_bind (f : α → Except ε β) : (Except.error e >>= f) = .error e := rfl

@[simp]
theorem pure_eq_ok : (pure a : Except ε α) = .ok a := rfl

/-! ## Values -/

variable {a : α} {b : β} {x : Except ε α}

theorem map_eq_ok {f : α → β} : x.map f = .ok b ↔ ∃ a, x = .ok a ∧ f a = b := by
  cases x <;> simp

theorem mapError_eq_ok {f : ε → δ} : x.mapError f = .ok a ↔ x = .ok a := by
  cases x <;> simp

theorem bind_eq_ok {f : α → Except ε β} : (x >>= f) = .ok b ↔ ∃ a, x = .ok a ∧ f a = .ok b := by
  cases x <;> simp

end SchemaTypings.Outcome
