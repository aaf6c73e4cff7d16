/-
Entries with keys in order of insertion. `put` keeps the place of a key that is there already; `get?_put` says what is
found afterwards.
-/

namespace SchemaTypings

/-- entries in order of insertion, one for each key; keys are texts if nothing else is said -/
abbrev Entries (α : Type) (κ : Type := String) := List (κ × α)

namespace Entries

variable {α κ : Type} [DecidableEq κ]

def get? (es : Entries α κ) (key : κ) : Option α := es.lookup key

/-- the entries with a value for a key, at the place of the key if it is there already -/
def put : Entries α κ → κ → α → Entries α κ
  | [], key, value => [(key, value)]
  | (k, v) :: es, key, value => if k = key then (key, value) :: es else (k, v) :: put es key value

/-- the entries with those of another list put in, in its order -/
def update (es new : Entries α κ) : Entries α κ := new.foldl (fun es e => put es e.1 e.2) es

/-- entries in which the last of two values of one key stays, at the place of the first -/
def ofList (es : List (κ × α)) : Entries α κ := update [] es

@[simp]
theorem get?_nil (k : κ) : get? ([] : Entries α κ) k = none := rfl

@[simp]
theorem get?_cons (e : κ × α) (es : Entries α κ) (k : κ) :
    get? (e :: es) k = if k = e.1 then some e.2 else get? es k := by
  obtain ⟨k', v⟩ := e
  by_cases h : k = k'
  · simp [get?, h]
  · have hb : (k == k') = false := beq_eq_false_iff_ne.2 h
    simp [get?, List.lookup_cons, hb, h]

@[simp]
theorem get?_put (es : Entries α κ) (key k : κ) (value : α) :
    get? (put es key value) k = if k = key then some value else get? es k := by
  induction es with
  | nil => simp [put]
  | cons e es ih =>
    obtain ⟨k', v⟩ := e
    unfold put
    by_cases h : k' = key
    · subst h
      by_cases hk : k = k' <;> simp [hk]
    · by_cases hk : k = k'
      · subst hk
        simp [h]
      · simp [h, hk, ih]

end Entries

end SchemaTypings
