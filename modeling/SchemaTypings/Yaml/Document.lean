/-
The document that the tokens of a YAML text write: its nodes, and which of them it is. An anchor is defined once; an alias is
the node of its anchor, even within that node.

Rules for collections take the rules for the nodes in them as an argument (`Inner`), so that the depth of nesting is what `node`
recurses on: it is limited by the room for calls.
-/
import SchemaTypings.Yaml.Graph
import SchemaTypings.Yaml.Token

namespace SchemaTypings.Yaml

open SchemaTypings.Text

/-- what is left of the tokens, the nodes of the anchors so far, and all nodes -/
structure Reading where
  tokens : List Token
  anchors : List (String × Nat)
  graph : Graph

/-- rules for what the tokens write; nodes are given by their numbers -/
abbrev Rule (α : Type) := Reading → Except Fault (α × Reading)

/-- the fault of tokens that do not fit, where they go on like this -/
def refusal : List Token → Fault
  | .excess f :: _ => f
  | _ => .illFormed

namespace Reading

/-- whether the rest of the text has a fault -/
def isBrokenOff (r : Reading) : Bool :=
  match r.tokens with
  | .excess _ :: _ => true
  | _ => false

def isAt (r : Reading) (ts : List Token) : Bool := r.tokens.head?.any (ts.contains ·)

def goTo (r : Reading) (ts : List Token) : Reading := { r with tokens := ts }

def skip (r : Reading) : Reading := r.goTo r.tokens.tail

/-- a new node, which the anchor stands for -/
def add (r : Reading) (anchor : Option String) (node : Node) : Nat × Reading :=
  let n := r.graph.size
  (n, { r with graph := r.graph.push node, anchors := (anchor.toList.map (·, n)) ++ r.anchors })

/-- gives a node something else to hold -/
def fill (r : Reading) (n : Nat) (c : Content) : Reading := { r with graph := r.graph.fill n c }

end Reading

/-- a node that is not written -/
def emptyNode : Rule Nat := fun r => .ok (r.add none ⟨.null, .scalar []⟩)

/-- the node of a rule, or the empty node before one of the tokens -/
def orEmpty (ends : List Token) (rule : Rule Nat) : Rule Nat := fun r =>
  if r.isAt ends then emptyNode r else rule r

/-- entries of a block sequence up to its end -/
def blockItems (item : Rule Nat) (r : Reading) : Except Fault (List Nat × Reading) :=
  match r.tokens with
  | .blockEntry :: rest =>
    match orEmpty [.blockEntry, .blockEnd] item (r.goTo rest) with
    | .error f => .error f
    | .ok (n, r') =>
      if r'.tokens.length < r.tokens.length then (blockItems item r').map fun (ns, r) => (n :: ns, r)
      else .error .illFormed
  | .blockEnd :: rest => .ok ([], r.goTo rest)
  | ts => .error (refusal ts)
termination_by r.tokens.length

/-- entries of a sequence at the column of the mapping around it -/
def flatItems (item : Rule Nat) (r : Reading) : Except Fault (List Nat × Reading) :=
  match r.tokens with
  | .blockEntry :: rest =>
    match orEmpty [.blockEntry, .key, .value, .blockEnd] item (r.goTo rest) with
    | .error f => .error f
    | .ok (n, r') =>
      if r'.tokens.length < r.tokens.length then (flatItems item r').map fun (ns, r) => (n :: ns, r)
      else .error .illFormed
  | _ => .ok ([], r)
termination_by r.tokens.length

/-- the value after a key, empty if there is none; `ends` are the tokens that cannot start it -/
def valueAfter (ends : List Token) (item : Rule Nat) : Rule Nat := fun r =>
  match r.tokens with
  | .value :: rest => orEmpty ends item (r.goTo rest)
  | _ => emptyNode r

/-- entries of a block mapping up to its end -/
def blockEntries (item : Rule Nat) (r : Reading) : Except Fault (List (Nat × Nat) × Reading) :=
  match r.tokens with
  | .key :: rest =>
    match orEmpty [.key, .value, .blockEnd] item (r.goTo rest) with
    | .error f => .error f
    | .ok (k, r₁) =>
      match valueAfter [.key, .value, .blockEnd] item r₁ with
      | .error f => .error f
      | .ok (v, r') =>
        if r'.tokens.length < r.tokens.length then (blockEntries item r').map fun (es, r) => ((k, v) :: es, r)
        else .error .illFormed
  | .blockEnd :: rest => .ok ([], r.goTo rest)
  | ts => .error (refusal ts)
termination_by r.tokens.length

/-- key and value within brackets after the token of a key; `close` closes the brackets -/
def flowPair (close : Token) (item : Rule Nat) : Rule (Nat × Nat) := fun r => do
  let (k, r) ← orEmpty [.value, .flowEntry, close] item r
  let (v, r) ← valueAfter [.flowEntry, close] item r
  return ((k, v), r)

/-- an item of a sequence in brackets; a key and its value are a mapping of one entry -/
def flowItem (item : Rule Nat) : Rule Nat := fun r =>
  match r.tokens with
  | .key :: rest => do
    let (e, r) ← flowPair .flowSequenceEnd item (r.goTo rest)
    return r.add none ⟨.mapping, r.graph.mappingOf [e]⟩
  | _ => item r

/-- an entry of a mapping in braces; an item without key token has no value -/
def flowMember (item : Rule Nat) : Rule (Nat × Nat) := fun r =>
  match r.tokens with
  | .key :: rest => flowPair .flowMappingEnd item (r.goTo rest)
  | _ => do
    let (k, r) ← item r
    let (v, r) ← emptyNode r
    return ((k, v), r)

/-- items in brackets up to `close`, with commas between them and perhaps after the last; `first` says that none is before -/
def flowItems {α : Type} (close : Token) (item : Rule α) (first : Bool) (r : Reading) : Except Fault (List α × Reading) :=
  if r.isAt [close] then .ok ([], r.skip)
  else if !first && !r.isAt [.flowEntry] then .error (refusal r.tokens)
  else
    let r₁ := if first then r else r.skip
    if r₁.isAt [close] then .ok ([], r₁.skip)
    else
      match item r₁ with
      | .error f => .error f
      | .ok (a, r') =>
        if r'.tokens.length < r.tokens.length then (flowItems close item false r').map fun (as, r) => (a :: as, r)
        else .error .illFormed
termination_by r.tokens.length

/-- properties of a node: anchor and tag in any order, each at most once; that one of them is missing shows only at the next
token -/
def properties (r : Reading) : Except Fault (Option String × Option (Option String × String) × Reading) :=
  let one (anchor : Option String) (tag : Option (Option String × String)) (ts : List Token) :=
    if (r.goTo ts).isBrokenOff then .error (refusal ts) else .ok (anchor, tag, r.goTo ts)
  match r.tokens with
  | .anchor a :: .tag h s :: rest => .ok (some a, some (h, s), r.goTo rest)
  | .tag h s :: .anchor a :: rest => .ok (some a, some (h, s), r.goTo rest)
  | .anchor a :: rest => one (some a) none rest
  | .tag h s :: rest => one none (some (h, s)) rest
  | ts => one none none ts

/-- a tag in full: its handle is replaced by what it stands for -/
def fullTag (handles : List (String × String)) : Option (Option String × String) → Except Fault (Option String)
  | none => .ok none
  | some (none, suffix) => .ok (some suffix)
  | some (some handle, suffix) => (expect (handles.lookup handle)).map fun base => some (base ++ suffix)

/-- the tag of a collection, which has one of its own if none is written -/
def collectionTag (tag : Option String) (own : Tag) : Tag :=
  match tag with
  | none => own
  | some t => if t = "!" then own else .ofText t

/-- the tag of a scalar; a text with half of a pair of surrogates looks like nothing but a text -/
def scalarTag (tag : Option String) (plain : Bool) (text : List Piece) : Tag :=
  let look : Tag :=
    match characters? text with
    | some cs => .ofPlain cs
    | none => .text
  match tag with
  | none => if plain then look else .text
  | some t => if t = "!" then look else .ofText t

/-- rules for the nodes in a collection: in a block collection, in an entry of a block mapping, and in brackets -/
structure Inner where
  block : Rule Nat
  entry : Rule Nat
  flow : Rule Nat

/-- a node after its properties; `block` says whether a block collection may stand here, `flat` whether a sequence at the
column of the mapping around it may. `inner?` are the rules for the nodes in it, none if there is no room for a collection -/
def content (inner? : Option Inner) (block flat : Bool) (anchor : Option String) (tag : Option String) : Rule Nat := fun r =>
  let collection (rule : Inner → Except Fault (Nat × Reading)) : Except Fault (Nat × Reading) :=
    match inner? with
    | none => .error (.breakdown .fullStack)
    | some inner => rule inner
  let sequence (items : Inner → Rule (List Nat)) (ts : List Token) : Except Fault (Nat × Reading) := collection fun inner => do
    let (n, r) := (r.goTo ts).add anchor ⟨collectionTag tag .sequence, .sequence []⟩
    let (ns, r) ← items inner r
    return (n, r.fill n (.sequence ns))
  let mapping (entries : Inner → Rule (List (Nat × Nat))) (ts : List Token) : Except Fault (Nat × Reading) :=
    collection fun inner => do
      let (n, r) := (r.goTo ts).add anchor ⟨collectionTag tag .mapping, .mapping [] []⟩
      let (es, r) ← entries inner r
      return (n, r.fill n (r.graph.mappingOf es))
  let scalar (plain : Bool) (text : List Piece) (ts : List Token) : Except Fault (Nat × Reading) :=
    .ok ((r.goTo ts).add anchor ⟨scalarTag tag plain text, .scalar text⟩)
  match r.tokens with
  | .scalar plain text :: rest => scalar plain text rest
  | .flowSequence :: rest => sequence (fun inner => flowItems .flowSequenceEnd (flowItem inner.flow) true) rest
  | .flowMapping :: rest => mapping (fun inner => flowItems .flowMappingEnd (flowMember inner.flow) true) rest
  | ts =>
    if flat && r.isAt [.blockEntry] then sequence (fun inner => flatItems inner.block) ts
    else if block && r.isAt [.blockSequence] then sequence (fun inner => blockItems inner.block) ts.tail
    else if block && r.isAt [.blockMapping] then mapping (fun inner => blockEntries inner.entry) ts.tail
    else if anchor.isSome || tag.isSome then scalar true [] ts
    else .error .illFormed

/-- a node, given the rules for the nodes in it -/
def nodeWith (handles : List (String × String)) (inner? : Option Inner) (block flat : Bool) : Rule Nat :=
  fun r =>
    match r.tokens with
    | .alias a :: rest => (expect (r.anchors.lookup a)).map (·, r.goTo rest)
    | _ => do
      let (anchor, tag, r) ← properties r
      let tag ← fullTag handles tag
      if r.isBrokenOff then .error (refusal r.tokens)
      else if anchor.any fun a => (r.anchors.lookup a).isSome then .error .illFormed
      else content inner? block flat anchor tag r

/-- a node in which so many collections may be open -/
def node (handles : List (String × String)) : (room : Nat) → (block flat : Bool) → Rule Nat
  | 0, block, flat => nodeWith handles none block flat
  | room + 1, block, flat =>
    nodeWith handles (some ⟨node handles room true false, node handles room true true, node handles room false false⟩) block
      flat

/-- what the handles of tags stand for if no directive says otherwise -/
def standardHandles : List (String × String) := [("!", "!"), ("!!", Tag.standardBase)]

/-- the directives before a document: the handles of tags; there is one version at most, and one expansion for a handle -/
def directives (version : Bool) (handles : List (String × String)) :
    List Token → Except Fault (List (String × String) × List Token)
  | .directive (.version major) :: rest =>
    if version ∨ major ≠ 1 then .error .illFormed else directives true handles rest
  | .directive (.handle h e) :: rest =>
    if (handles.lookup h).isSome then .error .illFormed else directives version ((h, e) :: handles) rest
  | .directive .other :: rest => directives version handles rest
  | ts => .ok (handles, ts)

/-- nothing but ends of the document may follow it; directives before a second document are read before that is refused -/
def ending (ts : List Token) : Except Fault Unit :=
  match ts.dropWhile (· = .documentEnd) with
  | [] => .ok ()
  | ts => do
    let (_, ts) ← directives false [] ts
    .error (refusal ts)

/-- whether the tokens start with a directive or the start of a document -/
def isExplicit : List Token → Bool
  | .directive _ :: _ => true
  | .documentStart :: _ => true
  | _ => false

/-- a document: its nodes and the number of the one it is -/
structure Document where
  graph : Graph
  root : Nat

/-- a document of a rule for its node, after which nothing may follow -/
def documentOf (rule : Rule Nat) (ts : List Token) : Except Fault (Option Document) := do
  let (n, r) ← rule ⟨ts, [], #[]⟩
  ending r.tokens
  return some ⟨r.graph, n⟩

/-- the single document of the tokens, if there is one; after the mark of its start it may be empty -/
def document [Stack] (ts : List Token) : Except Fault (Option Document) :=
  let root (handles : List (String × String)) : Rule Nat := node handles Stack.nesting true false
  if ts = [] then .ok none
  else if isExplicit ts then do
    match ← directives false [] ts with
    | (handles, .documentStart :: rest) =>
      if rest = [] ∨ rest.head? = some .documentEnd ∨ isExplicit rest then documentOf emptyNode rest
      else documentOf (root (handles ++ standardHandles)) rest
    | (_, rest) => .error (refusal rest)
  else documentOf (root standardHandles) ts

end SchemaTypings.Yaml
