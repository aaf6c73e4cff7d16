/-
What the nodes of a YAML document stand for. Scalars are read as their tags say; a mapping takes in the entries of the mappings
that it merges, which its own entries win over. There is no value if a tag is unknown, does not fit its node, or cannot be
read.

A collection stands for a value before there is anything in it, so that it may be in itself: what is in it is made later, in
the order in which the collections are met. A node that stands for a value keeps it, whatever becomes of its tag.
-/
import SchemaTypings.Config.Value
import SchemaTypings.Yaml.Base64
import SchemaTypings.Yaml.Document

namespace SchemaTypings.Config

open SchemaTypings.Text
open SchemaTypings.Yaml

def truthWords : List String := ["yes", "true", "on", "no", "false", "off"]

def integerOf (cs : List Char) : Except Fault Value :=
  if Number.dropSign (Number.withoutGaps cs) = [] then .error (.breakdown .emptyNumber)
  else if (Number.integer? cs).isSome then .ok (.other .int)
  else .error .illFormed

def realOf (cs : List Char) : Except Fault Value :=
  if Number.withoutGaps cs = [] then .error (.breakdown .emptyNumber)
  else
    match Number.realPlaces? cs with
    | none => .error .illFormed
    | some n => if Number.placeLimit < n then .error (.breakdown .tooManyPlaces) else .ok (.other .real)

def truthOf (ps : List Piece) : Except Fault Value :=
  let word := lower (ps.map Piece.code)
  if truthWords.any fun w => w.toList.map Char.toNat = word then .ok (.other .bool)
  else .error (.breakdown (.unknownTruth word))

def timestampOf (cs : List Char) : Except Fault Value :=
  match Timestamp.read? cs with
  | none => .error (.breakdown .noTimestamp)
  | some t =>
    if t.isValid then .ok (.other (if t.time.isSome then .moment else .date)) else .error .illFormed

/-- value of a text under a tag of scalars -/
def ofScalar (tag : Tag) (ps : List Piece) : Except Fault Value :=
  match tag, characters? ps with
  | .null, _ => .ok (.other .null)
  | .bool, _ => truthOf ps
  | .text, _ => .ok (.ofStr (.ofPieces ps))
  | .int, some cs => integerOf cs
  | .real, some cs => realOf cs
  | .bytes, some cs => (expect (Base64.decode? cs)).map .bytes
  | .timestamp, some cs => timestampOf cs
  | .timestamp, none => .error (.breakdown .noTimestamp)
  | _, _ => .error .illFormed

/-- the collection that a tag makes of a node -/
def collection? : Tag → Option NonText
  | .sequence => some .list
  | .orderedMap => some .list
  | .pairs => some .list
  | .mapping => some .mapping
  | .set => some .set
  | _ => none

/-- whether a tag makes a value of the text of a node -/
def isOfScalars : Tag → Bool
  | .null | .bool | .int | .real | .timestamp | .text | .bytes => true
  | _ => false

/-- value of a node that is no collection -/
def ofNode [Stack] (g : Graph) (n : Nat) : Except Fault Value :=
  if isOfScalars (g.tag n) then do
    let text ← g.text n
    if g.tag n = .timestamp ∧ g.isMapping n = true then .error (.breakdown .timestampOfMapping)
    else ofScalar (g.tag n) text
  else .error .illFormed

/-- the making of the values of a document: values of nodes so far, and the collections whose inside is still to be made -/
structure Making where
  graph : Graph
  made : Array (Option Value)
  pending : List Nat

namespace Making

def start (g : Graph) : Making := ⟨g, Array.replicate g.size none, []⟩

def value? (m : Making) (n : Nat) : Option Value := (m.made[n]?).join

def keep (m : Making) (n : Nat) (v : Value) : Making := { m with made := m.made.setIfInBounds n (some v) }

/-- makes the value of a node, a collection without what is in it -/
def make [Stack] (m : Making) (n : Nat) : Except Fault (Value × Making) :=
  match m.value? n with
  | some v => .ok (v, m)
  | none =>
    match collection? (m.graph.tag n) with
    | some sort => .ok (.other sort, { m.keep n (.other sort) with pending := m.pending ++ [n] })
    | none => (ofNode m.graph n).map fun v => (v, m.keep n v)

/-- makes an item of a sequence -/
def makeItem [Stack] (m : Making) (n : Nat) : Except Fault Making := (m.make n).map (·.2)

/-- makes an entry of a mapping; a collection cannot be a key -/
def makeEntry [Stack] (m : Making) (e : Nat × Nat) : Except Fault Making := do
  let (key, m) ← m.make e.1
  if key.key?.isNone then .error .illFormed else m.makeItem e.2

/-- makes a pair of a key and a value, which is written as a mapping of one entry -/
def makePair [Stack] (m : Making) (n : Nat) : Except Fault Making :=
  match m.graph.content n with
  | .mapping [] [(k, v)] => do
    let m ← m.makeItem k
    m.makeItem v
  | _ => .error .illFormed

/-- makes what is in a collection -/
def makeInside [Stack] (m : Making) (n : Nat) : Except Fault Making :=
  match m.graph.tag n, m.graph.content n with
  | .sequence, .sequence items => items.foldlM makeItem m
  | .orderedMap, .sequence items => items.foldlM makePair m
  | .pairs, .sequence items => items.foldlM makePair m
  | .mapping, .mapping _ _ => makeEntries
  | .set, .mapping _ _ => makeEntries
  | _, _ => .error .illFormed
where
  /-- makes the entries of a mapping after its merges -/
  makeEntries : Except Fault Making := do
    let g ← m.graph.settle n
    (g.entries n).foldlM makeEntry { m with graph := g }

/-- makes what is in the collections that are pending, of which there are at most `fuel` in all -/
def makePending [Stack] : (fuel : Nat) → Making → Except Fault Making
  | fuel, m =>
    match m.pending, fuel with
    | [], _ => .ok m
    | _ :: _, 0 => .error .illFormed
    | n :: rest, fuel + 1 => do
      let m ← { m with pending := rest }.makeInside n
      makePending fuel m

/-- the entry of a mapping as its nodes are made -/
def entry? (m : Making) (e : Nat × Nat) : Option (Key × Value) := do
  let key ← (m.value? e.1).bind Value.key?
  let value ← m.value? e.2
  return (key, value)

end Making

/-- the entries with a value for a key, at the place of a string that is there already -/
def putKey (es : List (Key × Value)) (key : Key) (value : Value) : List (Key × Value) :=
  match es with
  | [] => [(key, value)]
  | (k, v) :: es => if k = key ∧ key ≠ .other then (key, value) :: es else (k, v) :: putKey es key value

/-- what a document holds -/
def FileValue.ofDocument [Stack] (d : Document) : Except Fault FileValue := do
  let (v, m) ← (Making.start d.graph).make d.root
  let m ← m.makePending d.graph.size
  if v = .other .mapping then
    return .mapping (((m.graph.entries d.root).filterMap m.entry?).foldl (fun es e => putKey es e.1 e.2) [])
  else return .value v

/-- what a file with a YAML text holds, whose line ends are LF; no document is the same as one without value -/
def FileValue.ofYaml [Stack] (cs : List Char) : Except Fault FileValue := do
  let ts ← tokens cs
  match ← document ts with
  | some d => FileValue.ofDocument d
  | none => return .value (.other .null)

end SchemaTypings.Config
