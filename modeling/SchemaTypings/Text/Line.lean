/-
Lines of a text. A line ends with CR LF, LF or CR. `locate` finds line and column of a place, `split` the lines, and
`unify` writes every line end as LF, as a text file is read. `unify_of_not_mem` says that a text without CR is unchanged.
-/

namespace SchemaTypings.Text

/-- line and column, both counted from one -/
structure Position where
  line : Nat
  column : Nat
  deriving DecidableEq, Repr

namespace Line

def isEnd (c : Char) : Bool := c = '\n' || c = '\r'

/-- the text with LF for every line end -/
def unify : List Char → List Char
  | [] => []
  | '\r' :: '\n' :: cs => '\n' :: unify cs
  | c :: cs => (if c = '\r' then '\n' else c) :: unify cs

theorem unify_of_not_mem {cs : List Char} (h : '\r' ∉ cs) : unify cs = cs := by
  fun_induction unify cs with
  | case1 => rfl
  | case2 => simp at h
  | case3 c cs _ ih =>
    rw [List.mem_cons, not_or] at h
    rw [ih h.2, if_neg (fun e => h.1 e.symm)]

/-- the text without an LF at its end; of several only the last counts -/
def withoutFinal (cs : List Char) : List Char := if cs.getLast? = some '\n' then cs.dropLast else cs

/-- line and column of the place `offset` characters on, from a place on; the two characters of CR LF are one line end -/
def locateFrom (line column : Nat) : List Char → Nat → Position
  | _, 0 => ⟨line, column⟩
  | [], _ + 1 => ⟨line, column⟩
  | '\r' :: '\n' :: _, 1 => ⟨line + 1, 0⟩
  | '\r' :: '\n' :: cs, n + 2 => locateFrom (line + 1) 1 cs n
  | c :: cs, n + 1 => if isEnd c then locateFrom (line + 1) 1 cs n else locateFrom line (column + 1) cs n

/-- line and column of the place `offset` characters from the start -/
def locate (text : List Char) (offset : Nat) : Position := locateFrom 1 1 text offset

/-- the lines of a text; there is one more than there are line ends -/
def split : List Char → List (List Char)
  | [] => [[]]
  | '\r' :: '\n' :: cs => [] :: split cs
  | c :: cs =>
    if isEnd c then [] :: split cs
    else match split cs with
      | [] => [[c]]
      | l :: ls => (c :: l) :: ls

theorem split_ne_nil (cs : List Char) : split cs ≠ [] := by
  fun_induction split cs <;> simp

end Line

end SchemaTypings.Text
