/-
Nodes of a YAML document. A node is known by its number, and an alias is the number of the node it stands for: a collection may
hold itself, and what becomes of a node shows wherever it stands.

The values of the merge keys of a mapping are kept apart from its other entries. `settle` takes the entries of the mappings
that are merged in before the mapping's own ones; from then on a key that marks the default value is a text like any other.
-/
import SchemaTypings.Yaml.Fault
import SchemaTypings.Yaml.Tag

namespace SchemaTypings.Yaml

open SchemaTypings.Text

/-- what a node holds -/
inductive Content where
  | scalar (text : List Piece)
  | sequence (items : List Nat)
  | mapping (merged : List Nat) (entries : List (Nat × Nat))
  deriving DecidableEq, Repr

structure Node where
  tag : Tag
  content : Content
  deriving DecidableEq, Repr

/-- the nodes of a document by their numbers -/
abbrev Graph := Array Node

namespace Graph

def tag (g : Graph) (n : Nat) : Tag :=
  match g[n]? with
  | some node => node.tag
  | none => .unknown

def content (g : Graph) (n : Nat) : Content :=
  match g[n]? with
  | some node => node.content
  | none => .scalar []

def isMapping (g : Graph) (n : Nat) : Bool :=
  match g.content n with
  | .mapping _ _ => true
  | _ => false

/-- entries of a mapping without its merges -/
def entries (g : Graph) (n : Nat) : List (Nat × Nat) :=
  match g.content n with
  | .mapping _ es => es
  | _ => []

/-- gives a node something else to hold -/
def fill (g : Graph) (n : Nat) (c : Content) : Graph := g.modify n fun node => { node with content := c }

/-- makes a text of a node that marks a default value -/
def unmark (g : Graph) (n : Nat) : Graph :=
  g.modify n fun node => if node.tag = .defaultValue then { node with tag := .text } else node

/-- the content of a mapping with entries, of which some may be merges -/
def mappingOf (g : Graph) (es : List (Nat × Nat)) : Content :=
  let isMerge (e : Nat × Nat) : Bool := g.tag e.1 = .merge
  .mapping ((es.filter isMerge).map (·.2)) (es.filter (!isMerge ·))

/-- number of merges that are to be done -/
def merges (g : Graph) : Nat :=
  g.foldl (fun n node => match node.content with
    | .mapping merged _ => n + merged.length
    | _ => n) 0

/-- does the merges of a mapping, one after the other; `taken` are the entries that are taken in so far, and `room` is how many
mappings may still be merged within it. Each step does one merge at least, so that `fuel` may be one more than there are -/
def settleFrom : (fuel room : Nat) → (n : Nat) → (taken : List (Nat × Nat)) → Graph → Except Fault Graph
  | 0, _, _, _, _ => .error .illFormed
  | fuel + 1, room, n, taken, g =>
    match g.content n with
    | .mapping (target :: merged) es => do
      let g := g.fill n (.mapping merged es)
      let within (n : Nat) (g : Graph) : Except Fault Graph :=
        match room with
        | 0 => .error (.breakdown .fullStack)
        | room + 1 => settleFrom fuel room n [] g
      match g.content target with
      | .mapping _ _ =>
        let g ← within target g
        settleFrom fuel room n (taken ++ g.entries target) g
      | .sequence items =>
        let (more, g) ← items.foldlM (fun (more, g) item =>
          if g.isMapping item then (within item g).map fun g => (g.entries item ++ more, g)
          else .error .illFormed) ([], g)
        settleFrom fuel room n (taken ++ more) g
      | .scalar _ => .error .illFormed
    | .mapping [] es =>
      let es := taken ++ es
      .ok (es.foldl (fun g e => g.unmark e.1) (g.fill n (.mapping [] es)))
    | _ => .ok g

/-- does the merges of a mapping; those of a sequence of mappings are done from the first on, which wins -/
def settle [Stack] (g : Graph) (n : Nat) : Except Fault Graph := settleFrom (g.merges + 1) Stack.merging n [] g

/-- text of a scalar, or of the default value of a mapping, to which `room` mappings may lead; a default value that is its own
has no end -/
def textFrom (g : Graph) : (room : Nat) → (n : Nat) → Except Fault (List Piece)
  | room, n =>
    match g.content n, room with
    | .scalar text, _ => .ok text
    | .sequence _, _ => .error .illFormed
    | .mapping _ es, room =>
      match es.find? fun e => g.tag e.1 = .defaultValue, room with
      | some _, 0 => .error (.breakdown .fullStack)
      | some (_, v), room + 1 => textFrom g room v
      | none, _ => .error .illFormed

/-- text of a scalar, or of the default value of a mapping -/
def text [Stack] (g : Graph) (n : Nat) : Except Fault (List Piece) := g.textFrom Stack.defaulting n

end Graph

end SchemaTypings.Yaml
