/-
Hexadecimal digits write numbers: `hexNumber?_hexPadded` reads back what `hexPadded` writes, at any width, and a number
that fits takes the width exactly (`length_hexPadded`).
-/
import Mathlib.Tactic
import SchemaTypings.Text.CodePoint

namespace SchemaTypings.Text

/-- a digit as `hexPadded` writes it -/
def hexDigit (upper : Bool) (d : Nat) : Char := if upper then d.digitChar.toUpper else d.digitChar

theorem hexDigit?_hexDigit (upper : Bool) {d : Nat} (h : d < 16) : hexDigit? (hexDigit upper d) = some d := by
  have hall : ∀ up : Bool, ∀ e : Fin 16, hexDigit? (hexDigit up e) = some e.val := by decide
  exact hall upper ⟨d, h⟩

/-- the digits of a number, the last one apart -/
theorem toDigits_hex (n : Nat) :
    Nat.toDigits 16 n = if n < 16 then [n.digitChar] else Nat.toDigits 16 (n / 16) ++ [(n % 16).digitChar] :=
  Nat.toDigits_eq_if (by decide)

/-- digits as `hexPadded` writes them, without padding -/
def hexDigits (upper : Bool) (n : Nat) : List Char := (Nat.toDigits 16 n).map fun c => if upper then c.toUpper else c

theorem hexDigits_eq (upper : Bool) (n : Nat) :
    hexDigits upper n =
      if n < 16 then [hexDigit upper n] else hexDigits upper (n / 16) ++ [hexDigit upper (n % 16)] := by
  unfold hexDigits
  rw [toDigits_hex]
  by_cases hn : n < 16 <;> cases upper <;> simp [hn, hexDigit]

theorem hexPadded_eq (upper : Bool) (width n : Nat) :
    hexPadded upper width n = List.replicate (width - (hexDigits upper n).length) '0' ++ hexDigits upper n := by
  cases upper <;> simp [hexPadded, hexDigits]

theorem hexNumber?_hexDigits (upper : Bool) (n : Nat) : hexNumber? (hexDigits upper n) = some n := by
  induction n using Nat.strong_induction_on with
  | h n ih =>
    rw [hexDigits_eq]
    split_ifs with hn
    · simp [hexNumber?, hexDigit?_hexDigit upper hn]
    · have hlt : n / 16 < n := by omega
      have hdigit := hexDigit?_hexDigit upper (Nat.mod_lt n (by decide : 0 < 16))
      have hrest := ih (n / 16) hlt
      unfold hexNumber? at hrest ⊢
      simp only [List.foldlM_append, hrest, List.foldlM_cons, List.foldlM_nil, hdigit]
      simp only [bind, Option.bind, Option.map, pure]
      congr 1
      omega

/-- **Padded digits write their number.** -/
theorem hexNumber?_hexPadded (upper : Bool) (width n : Nat) : hexNumber? (hexPadded upper width n) = some n := by
  rw [hexPadded_eq]
  have hzeros : ∀ k : Nat, (List.replicate k '0').foldlM (fun n c => (hexDigit? c).map (16 * n + ·)) 0 = some 0 := by
    intro k
    induction k with
    | zero => rfl
    | succ k ih =>
      have hzero : hexDigit? '0' = some 0 := by decide
      simp [List.replicate_succ, hzero, ih]
  have hdigits := hexNumber?_hexDigits upper n
  unfold hexNumber? at hdigits ⊢
  rw [List.foldlM_append, hzeros]
  exact hdigits

theorem length_hexPadded (upper : Bool) {width n : Nat} (hw : 0 < width) (h : n < 16 ^ width) :
    (hexPadded upper width n).length = width := by
  have hle : (Nat.toDigits 16 n).length ≤ width := (Nat.length_toDigits_le_iff (by decide) hw).2 h
  rw [hexPadded_eq]
  simp only [hexDigits, List.length_append, List.length_replicate, List.length_map]
  omega

theorem exists_of_mem_hexDigits {upper : Bool} {n : Nat} {c : Char} (h : c ∈ hexDigits upper n) :
    ∃ d, d < 16 ∧ c = hexDigit upper d := by
  induction n using Nat.strong_induction_on with
  | h n ih =>
    rw [hexDigits_eq] at h
    split_ifs at h with hn
    · exact ⟨n, hn, List.mem_singleton.1 h⟩
    · rcases List.mem_append.1 h with h | h
      · exact ih (n / 16) (by omega) h
      · exact ⟨n % 16, Nat.mod_lt n (by decide), List.mem_singleton.1 h⟩

/-- padded digits are digits -/
theorem exists_of_mem_hexPadded {upper : Bool} {width n : Nat} {c : Char} (h : c ∈ hexPadded upper width n) :
    ∃ d, d < 16 ∧ c = hexDigit upper d := by
  rw [hexPadded_eq] at h
  rcases List.mem_append.1 h with h | h
  · exact ⟨0, by decide, by rw [List.eq_of_mem_replicate h]; cases upper <;> decide⟩
  · exact exists_of_mem_hexDigits h

end SchemaTypings.Text
