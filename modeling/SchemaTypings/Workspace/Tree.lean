/-
A directory with all that is below it, as a store of files. A place is the list of names that lead to it from the top. A path
is walked name by name: dots stay, double dots go up (not above the top), any other name has to be there.
-/
import SchemaTypings.Workspace.Store

namespace SchemaTypings.Workspace

inductive Entry where
  | directory
  | file (content : ByteArray)

/-- contents are compared byte by byte -/
instance : DecidableEq Entry
  | .directory, .directory => .isTrue rfl
  | .directory, .file _ => .isFalse nofun
  | .file _, .directory => .isFalse nofun
  | .file a, .file b =>
    match ByteArray.instDecidableEq a b with
    | .isTrue h => .isTrue (h ▸ rfl)
    | .isFalse h => .isFalse fun heq => h (Entry.file.inj heq)

/-- what stands below a directory, by place -/
structure Tree where
  entries : List (List String × Entry)

namespace Tree

def empty : Tree := ⟨[]⟩

/-- what stands at a place; at the top there is a directory -/
def get? (t : Tree) (place : List String) : Option Entry :=
  if place = [] then some .directory else t.entries.lookup place

/-- the tree with an entry at a place, instead of what was there -/
def put (t : Tree) (place : List String) (e : Entry) : Tree :=
  ⟨(place, e) :: t.entries.filter (·.1 ≠ place)⟩

@[simp]
theorem get?_put (t : Tree) (place other : List String) (e : Entry) (h : place ≠ []) :
    (t.put place e).get? other = if other = place then some e else t.get? other := by
  unfold get? put
  by_cases ho : other = place
  · subst ho
    simp [h]
  · have hb : (other == place) = false := beq_eq_false_iff_ne.2 ho
    simp only [ho, if_false, List.lookup_cons, hb]
    split
    · rfl
    · induction t.entries with
      | nil => rfl
      | cons p ps ih =>
        obtain ⟨q, v⟩ := p
        by_cases hq : q = place
        · have : (other == q) = false := beq_eq_false_iff_ne.2 (hq ▸ ho)
          simpa [hq, List.lookup_cons, hb] using ih
        · by_cases hoq : other = q
          · subst hoq
            simp [hq]
          · have : (other == q) = false := beq_eq_false_iff_ne.2 hoq
            simpa [hq, List.lookup_cons, this] using ih

/-- where a name leads from a place -/
def step (t : Tree) (place : List String) (name : String) : Except Obstacle (List String) :=
  match t.get? place with
  | none => .error .notFound
  | some (.file _) => .error .notDirectory
  | some .directory =>
    if name = "" ∨ name = "." then .ok place
    else if name = ".." then .ok place.dropLast
    else if (t.get? (place ++ [name])).isSome then .ok (place ++ [name])
    else .error .notFound

/-- where names lead from the top -/
def walk (t : Tree) (names : List String) : Except Obstacle (List String) := names.foldlM t.step []

/-- where a path leads; the empty text is no path -/
def locate (t : Tree) (path : String) : Except Obstacle (List String) :=
  if path = "" then .error .notFound
  else if hasNul path then .error .nulByte
  else t.walk (namesOf path)

/-- whether a last name stands for a directory by itself -/
def isDots (name : String) : Bool := name = "" || name = "." || name = ".."

/-- the place for a new entry, or the place of what is there already -/
def target (t : Tree) (path : String) : Except Obstacle (List String) :=
  match t.locate path with
  | .ok place => .ok place
  | .error .notFound =>
    let names := namesOf path
    let name := names.getLastD ""
    if isDots name then .error .notFound
    else do
      let place ← t.walk names.dropLast
      match t.get? place with
      | some .directory => return place ++ [name]
      | some (.file _) => .error .notDirectory
      | none => .error .notFound
  | .error o => .error o

def kind? (t : Tree) (path : String) : Option EntryKind :=
  match t.locate path with
  | .error _ => none
  | .ok place =>
    match t.get? place with
    | none => none
    | some .directory => some .directory
    | some (.file _) => some .file

def read (t : Tree) (path : String) : Except FileFault ByteArray :=
  match t.locate path with
  | .error o => .error ⟨o, path⟩
  | .ok place =>
    match t.get? place with
    | none => .error ⟨.notFound, path⟩
    | some .directory => .error ⟨.isDirectory, path⟩
    | some (.file content) => .ok content

/-- the place where a file of a path goes; a path with a slash at its end is that of a directory, whatever is there -/
def filePlace (t : Tree) (path : String) : Except Obstacle (List String) :=
  if hasNul path then .error .nulByte
  else if path ≠ "" ∧ (namesOf path).getLast? = some "" then do
    let _ ← t.walk (((namesOf path).reverse.dropWhile (· = "")).tail.reverse ++ ["."])
    .error .isDirectory
  else do
    let place ← t.target path
    if t.get? place = some .directory then .error .isDirectory else return place

def write (t : Tree) (path : String) (content : ByteArray) : Except FileFault Tree :=
  match t.filePlace path with
  | .error o => .error ⟨o, path⟩
  | .ok place => .ok (t.put place (.file content))

/-- a path without slashes at its end, unless there is nothing else -/
def withoutSlashes (path : String) : String :=
  match path.toList.reverse.dropWhile (· = '/') with
  | [] => path
  | cs => String.ofList cs.reverse

/-- the tree with a new directory at a path, which may have slashes at its end -/
def makeDirectory (t : Tree) (path : String) : Except FileFault Tree :=
  match t.target (withoutSlashes path) with
  | .error o => .error ⟨o, path⟩
  | .ok place =>
    match t.get? place with
    | some _ => .error ⟨.exists, path⟩
    | none => .ok (t.put place .directory)

/-- all places as texts, directories with a slash at the end, in the order of their characters -/
def listing (t : Tree) : List String :=
  (t.entries.map fun (place, e) =>
    "/".intercalate place ++ match e with
      | .directory => "/"
      | .file _ => "").mergeSort fun a b => decide (a ≤ b)

end Tree

/-- the outcome of an operation that may change the tree, which stays as it is if there is a fault -/
def changing (change : Tree → Except FileFault Tree) : StateM Tree (Except FileFault Unit) := fun t =>
  match change t with
  | .ok t' => (.ok (), t')
  | .error f => (.error f, t)

instance : FileStore (StateM Tree) where
  kind? path := fun t => (t.kind? path, t)
  read path := fun t => (t.read path, t)
  write path content := changing (·.write path content)
  makeDirectory path := changing (·.makeDirectory path)

/-! ## Operations on trees -/

section

variable (path : String) (t : Tree)

@[simp]
theorem kind?_apply : (FileStore.kind? path : StateM Tree (Option EntryKind)) t = (t.kind? path, t) := rfl

@[simp]
theorem read_apply : (FileStore.read path : StateM Tree (Except FileFault ByteArray)) t = (t.read path, t) := rfl

@[simp]
theorem write_apply (content : ByteArray) :
    (FileStore.write path content : StateM Tree (Except FileFault Unit)) t = changing (·.write path content) t := rfl

@[simp]
theorem makeDirectory_apply :
    (FileStore.makeDirectory path : StateM Tree (Except FileFault Unit)) t = changing (·.makeDirectory path) t := rfl

variable {path t} {t' : Tree} {change : Tree → Except FileFault Tree}

@[simp]
theorem changing_eq_ok : changing change t = (.ok (), t') ↔ change t = .ok t' := by
  unfold changing
  cases change t with
  | error f => exact iff_of_false (fun h => by cases h) (fun h => by cases h)
  | ok t₁ =>
    constructor
    · intro h
      cases h
      rfl
    · intro h
      cases h
      rfl

end

end SchemaTypings.Workspace
