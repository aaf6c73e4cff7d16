/-
Templates: texts with fields. A name between braces is a field, for which its value is put in; a brace that is doubled stands
for itself. `fillFrom_around`: between texts whose braces are doubled, the value goes in as it is and is not read again.
-/
import SchemaTypings.Entries
import SchemaTypings.Outcome

namespace SchemaTypings.Text

inductive TemplateFault where
  | loneBrace (brace : Char)
  | openField
  | unknownField (name : String)
  deriving DecidableEq, Repr

namespace Template

/-- the rest of a template with its fields filled in: from a place between them, or from within a field, after the given
characters of its name -/
def fillFrom (values : Entries String) : Option (List Char) → List Char → Except TemplateFault (List Char)
  | none, [] => .ok []
  | none, c :: cs =>
    if c = '\x7b' ∨ c = '\x7d' then
      match cs with
      | [] => .error (.loneBrace c)
      | d :: ds =>
        if d = c then (fillFrom values none ds).map (c :: ·)
        else if c = '\x7b' then fillFrom values (some []) (d :: ds)
        else .error (.loneBrace c)
    else (fillFrom values none cs).map (c :: ·)
  | some _, [] => .error .openField
  | some name, c :: cs =>
    if c = '\x7d' then
      match values.get? (String.ofList name) with
      | some value => (fillFrom values none cs).map (value.toList ++ ·)
      | none => .error (.unknownField (String.ofList name))
    else fillFrom values (some (name ++ [c])) cs

def fill (values : Entries String) (template : String) : Except TemplateFault String :=
  (fillFrom values none template.toList).map String.ofList

/-- a template that can be filled in, with its fields filled in -/
def filled (values : Entries String) (template : String) (h : (fill values template).toOption.isSome = true) : String :=
  (fill values template).toOption.get h

theorem isSome_of_fill {values : Entries String} {template text : String} (h : fill values template = .ok text) :
    (fill values template).toOption.isSome = true := by
  rw [h]
  rfl

theorem filled_eq {values : Entries String} {template text : String} (h : fill values template = .ok text) :
    filled values template (isSome_of_fill h) = text := by
  simp only [filled, h, Except.toOption, Option.get_some]

/-- a text with its braces doubled -/
def escape (cs : List Char) : List Char := cs.flatMap fun c => if c = '\x7b' ∨ c = '\x7d' then [c, c] else [c]

variable {values : Entries String} {name : List Char} {value : String}

theorem fillFrom_character {c : Char} (hc : ¬(c = '\x7b' ∨ c = '\x7d')) (cs : List Char) :
    fillFrom values none (c :: cs) = (fillFrom values none cs).map (c :: ·) := by
  rw [fillFrom.eq_def]
  simp only [if_neg hc]

/-- **Doubled braces are braces.** -/
theorem fillFrom_escape (values : Entries String) (cs rest : List Char) :
    fillFrom values none (escape cs ++ rest) = (fillFrom values none rest).map (cs ++ ·) := by
  induction cs with
  | nil => cases h : fillFrom values none rest <;> simp [escape, h]
  | cons c cs ih =>
    have hcons : fillFrom values none (escape (c :: cs) ++ rest) =
        (fillFrom values none (escape cs ++ rest)).map (c :: ·) := by
      by_cases hc : c = '\x7b' ∨ c = '\x7d'
      · simp [escape, fillFrom, hc]
      · simp [escape, hc, fillFrom_character hc]
    rw [hcons, ih]
    cases fillFrom values none rest <;> rfl

/-- the characters of a name are read up to its end -/
theorem fillFrom_name {more : List Char} (hmore : '\x7d' ∉ more) (rest : List Char)
    (h : values.get? (String.ofList (name ++ more)) = some value) :
    fillFrom values (some name) (more ++ '\x7d' :: rest) = (fillFrom values none rest).map (value.toList ++ ·) := by
  induction more generalizing name with
  | nil =>
    rw [List.append_nil] at h
    simp [fillFrom, h]
  | cons c more ih =>
    rw [List.mem_cons, not_or] at hmore
    rw [List.cons_append, fillFrom, if_neg (Ne.symm hmore.1)]
    exact ih hmore.2 (by simpa using h)

/-- **A field is its value**, whatever characters that has. -/
theorem fillFrom_field (hopen : '\x7b' ∉ name) (hclose : '\x7d' ∉ name) (rest : List Char)
    (h : values.get? (String.ofList name) = some value) :
    fillFrom values none ('\x7b' :: (name ++ '\x7d' :: rest)) = (fillFrom values none rest).map (value.toList ++ ·) := by
  have hname : fillFrom values (some []) (name ++ '\x7d' :: rest) = _ := fillFrom_name hclose rest h
  rw [← hname]
  cases name with
  | nil => simp [fillFrom]
  | cons c cs =>
    have hc : c ≠ '\x7b' := fun heq => hopen (heq ▸ List.mem_cons_self)
    rw [List.cons_append, fillFrom, if_pos (.inl rfl)]
    simp [hc]

/-- **One field between two texts.** -/
theorem fillFrom_around (hopen : '\x7b' ∉ name) (hclose : '\x7d' ∉ name)
    (h : values.get? (String.ofList name) = some value) (before after : List Char) :
    fillFrom values none (escape before ++ '\x7b' :: (name ++ '\x7d' :: escape after)) =
      .ok (before ++ (value.toList ++ after)) := by
  have hafter : fillFrom values none (escape after) = .ok after := by
    have hend := fillFrom_escape values after []
    rw [List.append_nil] at hend
    simp [hend, fillFrom]
  rw [fillFrom_escape, fillFrom_field hopen hclose _ h, hafter]
  rfl

end Template

end SchemaTypings.Text
