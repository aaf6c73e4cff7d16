/-
Entries that are put into others.

A key has one place, that of its first value, and its last value. So what is found, and which keys there are, is known of
both lists (`get?_update`, `filter_update`), and putting entries in is associative (`update_update`).
-/
import Mathlib.Tactic
import SchemaTypings.Entries

namespace SchemaTypings

namespace Entries

variable {α κ : Type} {es new : Entries α κ} {k key : κ} {v : α}

/-! ## Entries put into others -/

def keys (es : Entries α κ) : List κ := es.map Prod.fst

@[simp]
theorem keys_nil : keys ([] : Entries α κ) = [] := rfl

@[simp]
theorem keys_cons (e : κ × α) (es : Entries α κ) : keys (e :: es) = e.1 :: es.keys := rfl

variable [DecidableEq κ]

theorem keys_put (es : Entries α κ) (k : κ) (v : α) :
    (es.put k v).keys = if k ∈ es.keys then es.keys else es.keys ++ [k] := by
  induction es with
  | nil => simp [put]
  | cons e es ih =>
    obtain ⟨k', v'⟩ := e
    by_cases hk : k' = k
    · subst hk
      simp [put]
    · rw [put, if_neg hk, keys_cons, keys_cons, ih]
      by_cases hmem : k ∈ keys es
      · simp [hmem]
      · simp [hmem, Ne.symm hk]

@[simp]
theorem mem_keys_put : key ∈ (es.put k v).keys ↔ key ∈ es.keys ∨ key = k := by
  rw [keys_put]
  split_ifs with h
  · exact ⟨.inl, fun hkey => hkey.elim id fun heq => heq ▸ h⟩
  · simp

@[simp]
theorem update_nil (es : Entries α κ) : es.update [] = es := rfl

@[simp]
theorem update_cons (es new : Entries α κ) (e : κ × α) : es.update (e :: new) = (es.put e.1 e.2).update new := rfl

@[simp]
theorem mem_keys_update : key ∈ (es.update new).keys ↔ key ∈ es.keys ∨ key ∈ new.keys := by
  induction new generalizing es with
  | nil => simp
  | cons e new ih => simp [ih, or_assoc]

theorem put_of_notMem (h : k ∉ es.keys) (v : α) : es.put k v = es ++ [(k, v)] := by
  induction es with
  | nil => rfl
  | cons e es ih =>
    obtain ⟨hne, hes⟩ := not_or.1 (mt List.mem_cons.2 h)
    rw [put, if_neg (Ne.symm hne), ih hes]
    rfl

/-- entries are put after others if no key is in both -/
theorem update_of_nodup (h : keys (es ++ new) |>.Nodup) : es.update new = es ++ new := by
  induction new generalizing es with
  | nil => exact (List.append_nil es).symm
  | cons e new ih =>
    have hsplit : es ++ e :: new = es ++ [e] ++ new := by simp
    have hmem : e.1 ∉ es.keys := by
      rw [keys, List.map_append, List.nodup_append'] at h
      exact fun hes => h.2.2 hes List.mem_cons_self
    rw [update_cons, put_of_notMem hmem, ih (hsplit ▸ h), hsplit]

/-- of entries without common keys none is lost -/
theorem ofList_of_nodup (h : es.keys.Nodup) : ofList es = es := update_of_nodup h

theorem nodup_put (h : es.keys.Nodup) (k : κ) (v : α) : (es.put k v).keys.Nodup := by
  rw [keys_put]
  split_ifs with hk
  · exact h
  · exact List.nodup_append.2 ⟨h, List.nodup_singleton k, fun a ha b hb => by
      rw [List.mem_singleton.1 hb]
      exact fun heq => hk (heq ▸ ha)⟩

theorem nodup_update (h : es.keys.Nodup) (new : Entries α κ) : (es.update new).keys.Nodup := by
  induction new generalizing es with
  | nil => exact h
  | cons e new ih => exact ih (nodup_put h e.1 e.2)

theorem mem_put {e : κ × α} (h : e ∈ es.put k v) : e ∈ es ∨ e = (k, v) := by
  induction es with
  | nil => exact .inr (List.mem_singleton.1 h)
  | cons d es ih =>
    obtain ⟨k', v'⟩ := d
    rw [put] at h
    split_ifs at h
    · rcases List.mem_cons.1 h with rfl | h
      · exact .inr rfl
      · exact .inl (List.mem_cons_of_mem _ h)
    · rcases List.mem_cons.1 h with rfl | h
      · exact .inl List.mem_cons_self
      · exact (ih h).imp_left (List.mem_cons_of_mem _)

/-- what is in entries with others put in was in one of them -/
theorem mem_update {e : κ × α} (h : e ∈ es.update new) : e ∈ es ∨ e ∈ new := by
  induction new generalizing es with
  | nil => exact .inl h
  | cons d new ih =>
    rcases ih h with h | h
    · rcases mem_put h with h | rfl
      · exact .inl h
      · exact .inr List.mem_cons_self
    · exact .inr (List.mem_cons_of_mem d h)

theorem get?_isSome : (es.get? k).isSome ↔ k ∈ es.keys := by
  induction es with
  | nil => simp
  | cons e es ih => by_cases hk : k = e.1 <;> simp [hk, ih]

theorem get?_eq_none : es.get? k = none ↔ k ∉ es.keys := by rw [← Option.not_isSome_iff_eq_none, get?_isSome]

/-- of keys that are different from one another each has its own value -/
theorem get?_eq_some_iff (h : es.keys.Nodup) : es.get? k = some v ↔ (k, v) ∈ es := by
  induction es with
  | nil => simp
  | cons e es ih =>
    obtain ⟨k', v'⟩ := e
    obtain ⟨hnotMem, hnodup⟩ := List.nodup_cons.1 h
    by_cases hk : k = k'
    · subst hk
      have hmem : (k, v) ∉ es := fun hv => hnotMem (List.mem_map.2 ⟨(k, v), hv, rfl⟩)
      simp [hmem, eq_comm]
    · simp [ih hnodup, hk]

/-- and keeps it in any order -/
theorem get?_eq_of_perm {es fs : Entries α κ} (h : es.keys.Nodup) (hperm : es.Perm fs) (k : κ) :
    es.get? k = fs.get? k := by
  have hnodup : fs.keys.Nodup := (hperm.map Prod.fst).nodup_iff.1 h
  refine Option.ext fun v => ?_
  rw [get?_eq_some_iff h, get?_eq_some_iff hnodup, hperm.mem_iff]

@[simp]
theorem update_eq_nil : es.update new = [] ↔ es = [] ∧ new = [] := by
  have hkeys : ∀ es : Entries α κ, es = [] ↔ ∀ k, k ∉ es.keys := fun es => by
    rw [← List.eq_nil_iff_forall_not_mem, keys, List.map_eq_nil_iff]
  simp [hkeys, not_or, forall_and]

/-- the last value that is put in for a key is found, and without one what was there -/
theorem get?_update (es new : Entries α κ) (k : κ) : (es.update new).get? k = ((update [] new).get? k).or (es.get? k) := by
  induction new generalizing es with
  | nil => rfl
  | cons e new ih =>
    rw [update_cons, update_cons, ih (es.put e.1 e.2), ih (put [] e.1 e.2), get?_put, get?_put]
    by_cases hk : k = e.1 <;> simp [hk]

theorem filter_put (p : κ → Bool) (es : Entries α κ) (k : κ) (v : α) :
    (es.put k v).filter (fun e => p e.1) =
      if p k then put (es.filter fun e => p e.1) k v else es.filter fun e => p e.1 := by
  induction es with
  | nil => cases hp : p k <;> simp [put, hp]
  | cons e es ih =>
    obtain ⟨k', v'⟩ := e
    rw [put]
    by_cases hk : k' = k
    · subst hk
      cases hp : p k' <;> simp [put, hp]
    · rw [if_neg hk, List.filter_cons, List.filter_cons, ih]
      cases hp : p k <;> cases hp' : p k' <;> simp [put, hk]

/-- entries with certain keys are put in among the entries with such keys -/
theorem filter_update (p : κ → Bool) (es new : Entries α κ) :
    (es.update new).filter (fun e => p e.1) =
      update (es.filter fun e => p e.1) (new.filter fun e => p e.1) := by
  induction new generalizing es with
  | nil => rfl
  | cons e new ih =>
    rw [update_cons, ih, filter_put, List.filter_cons]
    cases hp : p e.1 with
    | false => rfl
    | true => rfl

/-! ## Entries under other keys -/

section

variable {ι : Type} [DecidableEq ι] {f : κ → ι}

theorem put_map (hf : Function.Injective f) (es : Entries α κ) (k : κ) (v : α) :
    put (es.map fun e => (f e.1, e.2)) (f k) v = (es.put k v).map fun e => (f e.1, e.2) := by
  induction es with
  | nil => rfl
  | cons e es ih =>
    rw [List.map_cons, put, put, ih]
    by_cases hk : e.1 = k
    · rw [if_pos hk, if_pos (congrArg f hk)]
      rfl
    · rw [if_neg hk, if_neg (hf.ne hk)]
      rfl

/-- entries are put in alike under keys that are other names for theirs -/
theorem update_map (hf : Function.Injective f) (es new : Entries α κ) :
    update (es.map fun e => (f e.1, e.2)) (new.map fun e => (f e.1, e.2)) = (es.update new).map fun e => (f e.1, e.2) := by
  induction new generalizing es with
  | nil => rfl
  | cons e new ih => rw [List.map_cons, update_cons, update_cons, put_map hf, ih]

end

/-! ## Entries put in one after the other -/

theorem put_put (es : Entries α κ) (k : κ) (v w : α) : (es.put k v).put k w = es.put k w := by
  induction es with
  | nil => simp [put]
  | cons e es ih =>
    obtain ⟨k', v'⟩ := e
    by_cases hk : k' = k
    · simp [put, hk]
    · simp [put, hk, ih]

/-- values of different keys may be put in in any order, if one key has its place already -/
theorem put_comm (hk : k ∈ es.keys) (hne : key ≠ k) (v w : α) :
    (es.put key w).put k v = (es.put k v).put key w := by
  induction es with
  | nil => cases hk
  | cons e es ih =>
    obtain ⟨k', v'⟩ := e
    by_cases hk' : k' = k
    · subst hk'
      simp [put, Ne.symm hne]
    · have hmem : k ∈ keys es := (List.mem_cons.1 hk).resolve_left (Ne.symm hk')
      by_cases hkey : k' = key
      · simp [put, hkey, hne]
      · simp [put, hk', hkey, ih hmem]

theorem put_update (hk : k ∈ es.keys) (hnew : k ∉ keys new) (v : α) :
    (es.update new).put k v = (es.put k v).update new := by
  induction new generalizing es with
  | nil => rfl
  | cons e new ih =>
    obtain ⟨hne, hnew⟩ := not_or.1 (mt List.mem_cons.2 hnew)
    rw [update_cons, update_cons, ih (mem_keys_put.2 (.inl hk)) hnew, put_comm hk (Ne.symm hne)]

theorem update_put (es : Entries α κ) (h : keys new |>.Nodup) (k : κ) (v : α) :
    es.update (new.put k v) = (es.update new).put k v := by
  induction new generalizing es with
  | nil => rfl
  | cons e new ih =>
    obtain ⟨k', v'⟩ := e
    obtain ⟨hmem, hnodup⟩ := List.nodup_cons.1 h
    rw [put]
    by_cases hk : k' = k
    · subst hk
      rw [if_pos rfl, update_cons, update_cons, put_update (mem_keys_put.2 (.inr rfl)) hmem, put_put]
    · rw [if_neg hk, update_cons, update_cons, ih _ hnodup]

/-- **Putting in is associative.** -/
theorem update_update (es : Entries α κ) (h : keys new |>.Nodup) (newer : Entries α κ) :
    es.update (new.update newer) = (es.update new).update newer := by
  induction newer generalizing new with
  | nil => rfl
  | cons e newer ih => rw [update_cons, update_cons, ih (nodup_put h e.1 e.2), update_put es h]

end Entries

end SchemaTypings
