/-
Paths: names in a row, after a slash if the path is rooted. Empty names and single dots do not count, double dots do. Two
slashes at the start are kept apart from one, more of them are not.
-/
namespace SchemaTypings.Workspace

/-- the names of a path text, empty ones and dots included -/
def namesOf (text : String) : List String := (text.toList.splitOn '/').map String.ofList

/-- whether a path text has a NUL in it, which no path can have -/
def hasNul (text : String) : Bool := text.toList.contains '\x00'

/-- what a path starts with -/
inductive Root where
  | none
  | slash
  | slashes
  deriving DecidableEq, Repr

namespace Root

def text : Root → String
  | .none => ""
  | .slash => "/"
  | .slashes => "//"

def ofText (cs : List Char) : Root :=
  match (cs.takeWhile (· = '/')).length with
  | 0 => .none
  | 2 => .slashes
  | _ => .slash

end Root

structure Path where
  root : Root
  names : List String
  deriving DecidableEq, Repr

namespace Path

def ofText (text : String) : Path :=
  ⟨.ofText text.toList, (namesOf text).filter fun n => n ≠ "" ∧ n ≠ "."⟩

/-- a path as text; one without names is a dot -/
def text (p : Path) : String :=
  if p.root = .none ∧ p.names = [] then "." else p.root.text ++ "/".intercalate p.names

/-- the path without its last name -/
def parent (p : Path) : Path := ⟨p.root, p.names.dropLast⟩

/-- the end of a name from its last dot on, if that is neither the first nor the last character -/
def suffixOf (name : List Char) : List Char :=
  let after := (name.reverse.takeWhile (· ≠ '.')).reverse
  if after = [] ∨ name.length < after.length + 2 then [] else '.' :: after

def suffix (p : Path) : String :=
  match p.names.getLast? with
  | none => ""
  | some n => String.ofList (suffixOf n.toList)

end Path

/-- a path text in the form in which messages show it -/
def showPath (text : String) : String := (Path.ofText text).text

end SchemaTypings.Workspace
