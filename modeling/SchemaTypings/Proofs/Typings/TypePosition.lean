/-
What is reported of type positions that hold no type.

The text of a position, of a member and of a record may be made in one pass over the document, as it is read: the equations
`typeText_…`, `memberTextOf_…` and `declare_record` say so. So the first leaf that is no name decides, in the order members,
type before arguments, arguments (`Member.leaves`), and it is named whatever wrappers are around it
(`typePositions_reported`).
-/
import SchemaTypings.Proofs.FirstFault
import SchemaTypings.Typings.Declaration

namespace SchemaTypings.Schema

variable {α β ε : Type}

/-! ## Leaves -/

def Slot.isNamed : Slot → Bool
  | .named _ => true
  | _ => false

/-- the kind of the node at a leaf that is no name, if there is a node -/
def Slot.kind? : Slot → Option Kind
  | .stray k => some k
  | _ => none

/-- what a message calls a leaf -/
def Slot.label : Slot → String
  | .named _ => Kind.label (.other .namedType)
  | .missing => "NoneType"
  | .stray k => k.label

/-- the leaves of the type positions of a member: its own first, then those of its arguments; input values have none -/
def Member.leaves : Member α → List α
  | .field _ t args => t.leafOf :: args.map (·.type.leafOf)
  | .input _ t => [t.leafOf]

/-- the first of some leaves that is no name -/
def firstStray? (leaves : List Slot) : Option Slot := leaves.find? (!·.isNamed)

theorem isNamed_of_firstStray? {leaves : List Slot} {leaf : Slot} (h : firstStray? leaves = some leaf) :
    leaf.isNamed = false := by
  have hleaf := List.find?_some h
  rwa [Bool.not_eq_true'] at hleaf

theorem firstStray?_eq_none {leaves : List Slot} :
    firstStray? leaves = none ↔ ∀ leaf ∈ leaves, leaf.isNamed = true := by
  rw [firstStray?, List.find?_eq_none]
  simp

/-- **The label tells the leaf,** unless it is a name. -/
theorem eq_of_label_eq {a b : Slot} (ha : a.isNamed = false) (hb : b.isNamed = false) (h : a.label = b.label) :
    a = b := by
  have hlabels : ("NoneType" :: Kind.all.map Kind.label).Nodup := by decide +kernel
  obtain ⟨hmissing, hkinds⟩ := List.nodup_cons.1 hlabels
  have hnode : ∀ k : Kind, k.label ≠ "NoneType" :=
    fun k hk => hmissing (hk ▸ List.mem_map_of_mem (Kind.mem_all k))
  cases a with
  | named n => cases ha
  | missing =>
    cases b with
    | named n => cases hb
    | missing => rfl
    | stray l => exact absurd h.symm (hnode l)
  | stray k =>
    cases b with
    | named n => cases hb
    | missing => exact absurd h (hnode k)
    | stray l => exact congrArg Slot.stray (List.inj_on_of_nodup_map hkinds (Kind.mem_all k) (Kind.mem_all l) h)

theorem isNonNull_of_traverse {f : α → Except ε β} {t : TypeRef α} {u : TypeRef β} (h : t.traverse f = .ok u) :
    u.isNonNull = t.isNonNull := by
  cases t with
  | leaf a =>
    rw [TypeRef.traverse] at h
    cases ha : f a <;> rw [ha] at h <;> cases h
    rfl
  | list t =>
    rw [TypeRef.traverse] at h
    cases ht : t.traverse f <;> rw [ht] at h <;> cases h
    rfl
  | nonNull t =>
    rw [TypeRef.traverse] at h
    cases ht : t.traverse f <;> rw [ht] at h <;> cases h
    rfl

end SchemaTypings.Schema

namespace SchemaTypings.Typings

open SchemaTypings.Schema
open SchemaTypings.Text (TextLike)
open SchemaTypings.Text.TextLike (ofText)

/-! ## Types in one pass -/

/-- the fault of a leaf that is no name -/
def leafFault (leaf : Slot) : Fault := .strayType leaf.kind?

theorem typeText_eq (bare : Bool) (t : TypeRef Slot) :
    typeText bare t =
      ((t.traverse Slot.check).mapError .strayType).map fun t => if bare then renderBare t else render t := by
  rw [typeText]
  cases t.traverse Slot.check <;> rfl

@[simp]
theorem typeText_named (n : String) : typeText true (.leaf (.named n)) = .ok (scalarName n) := rfl

theorem typeText_stray {leaf : Slot} (h : leaf.isNamed = false) : typeText true (.leaf leaf) = .error (leafFault leaf) := by
  cases leaf with
  | named n => cases h
  | missing => rfl
  | stray k => rfl

@[simp]
theorem typeText_list (t : TypeRef Slot) :
    typeText true (.list t) = (typeText false t).map fun text => "ArrayOrValue<" ++ text ++ ">" := by
  rw [typeText_eq, typeText_eq, TypeRef.traverse]
  cases t.traverse Slot.check <;> rfl

/-- a mark against null takes the layer away, and without that layer it has no text -/
@[simp]
theorem typeText_nonNull (bare : Bool) (t : TypeRef Slot) : typeText bare (.nonNull t) = typeText true t := by
  rw [typeText_eq, typeText_eq, TypeRef.traverse]
  cases t.traverse Slot.check with
  | error k => rfl
  | ok u => cases bare <;> rfl

/-- without a mark a type has the layer -/
theorem typeText_nullable {t : TypeRef Slot} (h : t.isNonNull = false) :
    typeText false t = (typeText true t).map fun text => "Maybe<" ++ text ++ ">" := by
  rw [typeText_eq, typeText_eq]
  cases ht : t.traverse Slot.check with
  | error k => rfl
  | ok u =>
    have hu : u.isNonNull = false := (isNonNull_of_traverse ht).trans h
    simp [render_eq, hu]

/-! ## Members and records in one pass -/

def argumentTextOf (a : Argument Slot) : Except Fault String :=
  (typeText true a.type).map fun text => a.name ++ optionalMark a.type ++ ": " ++ text

/-- type of a field with the texts of its type and its arguments -/
def fieldType (type : String) (args : List String) : String :=
  if args = [] then "Field<" ++ type ++ ">" else "Resolve<" ++ type ++ ", \x7b" ++ ", ".intercalate args ++ "\x7d>"

theorem optionalMark_of_traverse {t : TypeRef Slot} {u : TypeRef String} (h : t.traverse Slot.check = .ok u) :
    optionalMark u = optionalMark t := by
  rw [optionalMark, optionalMark, isNonNull_of_traverse h]

theorem argumentTextOf_eq (a : Argument Slot) :
    argumentTextOf a = ((a.traverse Slot.check).mapError .strayType).map argumentText := by
  rw [argumentTextOf, typeText_eq, Argument.traverse]
  cases ht : a.type.traverse Slot.check with
  | error k => rfl
  | ok u => simp [argumentText, optionalMark_of_traverse ht]

theorem memberTextOf_eq (m : Member Slot) :
    memberTextOf m = ((m.traverse Slot.check).mapError .strayType).map memberText := by
  rw [memberTextOf]
  cases m.traverse Slot.check <;> rfl

theorem memberTextOf_input (n : String) (t : TypeRef Slot) :
    memberTextOf (.input n t) = (typeText false t).map fun type => n ++ optionalMark t ++ ": " ++ type ++ ";" := by
  rw [memberTextOf_eq, typeText_eq, Member.traverse]
  cases ht : t.traverse Slot.check with
  | error k => rfl
  | ok u =>
    simp [memberText, Member.name, memberMark, memberType, optionalMark_of_traverse ht]

theorem memberType_field (n : String) (t : TypeRef String) (args : List (Argument String)) :
    memberType (.field n t args) = fieldType (render t) (args.map argumentText) := by
  cases args <;> rfl

theorem memberTextOf_field (n : String) (t : TypeRef Slot) (args : List (Argument Slot)) :
    memberTextOf (.field n t args) = do
      let type ← typeText false t
      let texts ← args.mapM argumentTextOf
      return n ++ optionalMark t ++ ": " ++ fieldType type texts ++ ";" := by
  have hargs : args.mapM argumentTextOf =
      ((args.mapM (Argument.traverse Slot.check)).mapError .strayType).map (List.map argumentText) := by
    rw [← mapM_mapError_map]
    exact congrArg (args.mapM ·) (funext argumentTextOf_eq)
  rw [memberTextOf_eq, typeText_eq, hargs, Member.traverse]
  cases ht : t.traverse Slot.check with
  | error k => rfl
  | ok u =>
    cases args.mapM (Argument.traverse Slot.check) with
    | error k => rfl
    | ok bs =>
      show Except.ok (memberText (.field n u bs)) = Except.ok _
      rw [memberText, memberType_field, memberMark, optionalMark_of_traverse ht]
      rfl

section

variable {τ : Type} [TextLike τ]

/-- a record around the texts of its members, one line for each -/
def recordAround (indent : τ) (name : String) (texts : List String) : τ :=
  ofText ("export interface " ++ name ++ " \x7b\n") ++
    TextLike.join (texts.map fun text => indent ++ ofText text ++ ofText "\n") ++ ofText "\x7d\n"

theorem recordText_eq (indent : τ) (n : String) (ms : List (Member String)) :
    recordText indent n ms = recordAround indent n (ms.map memberText) := by
  rw [recordText, recordAround, List.map_map]
  rfl

/-- a record is written member by member, up to the first that cannot be written -/
theorem declare_record (indent : τ) (k : RecordKind) (n : String) (ms : List (Member Slot)) :
    declare indent (.record k n ms) = (ms.mapM memberTextOf).map (recordAround indent n) := by
  have hms : ms.mapM memberTextOf =
      ((ms.mapM (Member.traverse Slot.check)).mapError .strayType).map (List.map memberText) := by
    rw [← mapM_mapError_map]
    exact congrArg (ms.mapM ·) (funext memberTextOf_eq)
  rw [hms, declare, Definition.check, Definition.traverse]
  cases ms.mapM (Member.traverse Slot.check) with
  | error k => rfl
  | ok ns => exact congrArg Except.ok (recordText_eq indent n ns)

end

/-! ## The first bad position -/

/-- **A type position is refused exactly if its leaf is no name,** whatever wrappers are around it. -/
theorem stopsAt_typeText (bare : Bool) (t : TypeRef Slot) :
    StopsAt leafFault (firstStray? [t.leafOf]) (typeText bare t) := by
  induction t generalizing bare with
  | leaf leaf =>
    have hbare : StopsAt leafFault (firstStray? [leaf]) (typeText true (.leaf leaf)) := by
      cases hleaf : leaf.isNamed with
      | true =>
        rw [firstStray?, List.find?_cons_of_neg (by rw [hleaf]; simp)]
        cases leaf with
        | named n => exact ⟨_, typeText_named n⟩
        | _ => cases hleaf
      | false =>
        rw [firstStray?, List.find?_cons_of_pos (by rw [hleaf]; rfl)]
        exact typeText_stray hleaf
    cases bare with
    | true => exact hbare
    | false =>
      rw [typeText_nullable rfl]
      exact hbare.map _
  | list t ih =>
    have hbare : StopsAt leafFault (firstStray? [t.leafOf]) (typeText true (.list t)) := by
      rw [typeText_list]
      exact (ih false).map _
    cases bare with
    | true => exact hbare
    | false =>
      rw [typeText_nullable rfl]
      exact hbare.map _
  | nonNull t ih =>
    rw [typeText_nonNull]
    exact ih true

/-- a member stops at its own type, or else at the first of its arguments -/
theorem stopsAt_memberTextOf (m : Member Slot) : StopsAt leafFault (firstStray? m.leaves) (memberTextOf m) := by
  cases m with
  | input n t =>
    rw [memberTextOf_input]
    exact (stopsAt_typeText false t).map _
  | field n t args =>
    have hargs : StopsAt leafFault (firstStray? (args.map (·.type.leafOf))) (args.mapM argumentTextOf) := by
      have hone : ∀ a : Argument Slot, StopsAt leafFault (firstStray? [a.type.leafOf]) (argumentTextOf a) :=
        fun a => (stopsAt_typeText true a.type).map _
      have hleaves : args.map (·.type.leafOf) = args.flatMap fun a => [a.type.leafOf] :=
        List.map_eq_flatMap
      rw [hleaves, firstStray?, List.find?_flatMap]
      exact .mapM hone args
    have hleaves : firstStray? (Member.leaves (.field n t args)) =
        (firstStray? [t.leafOf]).or ((firstStray? (args.map (·.type.leafOf))).or none) := by
      rw [Option.or_none, firstStray?, firstStray?, firstStray?, ← List.find?_append]
      rfl
    rw [memberTextOf_field, hleaves]
    exact (stopsAt_typeText false t).bind fun type => hargs.bind fun texts => .pure _

/-- a record stops at the first of its members that does -/
theorem stopsAt_members (ms : List (Member Slot)) :
    StopsAt leafFault (firstStray? (ms.flatMap Member.leaves)) (ms.mapM memberTextOf) := by
  rw [firstStray?, List.find?_flatMap]
  exact .mapM stopsAt_memberTextOf ms

/-- whether a text cannot be made because of a leaf, which the fault names -/
def Reports {α : Type} (leaf : Slot) (x : Except Fault α) : Prop :=
  x = .error (leafFault leaf) ∧ (leafFault leaf).message = "Unexpected type node: " ++ leaf.label

theorem message_leafFault {leaf : Slot} (h : leaf.isNamed = false) :
    (leafFault leaf).message = "Unexpected type node: " ++ leaf.label := by
  cases leaf with
  | named n => cases h
  | missing => rfl
  | stray k => rfl

/-- what is refused with the fault of a leaf reports the leaf -/
theorem reports_of_stopsAt {α : Type} {leaves : List Slot} {leaf : Slot} {x : Except Fault α}
    (hleaf : firstStray? leaves = some leaf) (h : StopsAt leafFault (firstStray? leaves) x) : Reports leaf x := by
  rw [hleaf] at h
  exact ⟨h, message_leafFault (isNamed_of_firstStray? hleaf)⟩

/-- **Bad type positions are reported exactly.** A type has a text, with or without its layer for null, if its leaf is a
name, and is refused with that leaf otherwise. A record is refused if one of its positions has such a leaf, with the first
of them in the order members, type before arguments, arguments; otherwise it has a line for each of its members. -/
theorem typePositions_reported {τ : Type} [TextLike τ] (indent : τ) (k : RecordKind) (n : String) (ms : List (Member Slot)) :
    (∀ t : TypeRef Slot,
      if t.leafOf.isNamed then ∀ bare, ∃ text, typeText bare t = .ok text
      else ∀ bare, Reports t.leafOf (typeText bare t)) ∧
      ((∃ kind, declare indent (.record k n ms) = .error (.strayType kind)) ↔
        ∃ leaf ∈ ms.flatMap Member.leaves, leaf.isNamed = false) ∧
      match firstStray? (ms.flatMap Member.leaves) with
      | some leaf => Reports leaf (declare indent (.record k n ms))
      | none => ∃ texts, List.Forall₂ (fun m text => memberTextOf m = .ok text) ms texts ∧
          declare indent (.record k n ms) = .ok (recordAround indent n texts) := by
  have hmembers := stopsAt_members ms
  have hrecord : StopsAt leafFault (firstStray? (ms.flatMap Member.leaves)) (declare indent (.record k n ms)) := by
    rw [declare_record]
    exact hmembers.map _
  refine ⟨fun t => ?_, ?_, ?_⟩
  · have ht := fun bare => stopsAt_typeText bare t
    split_ifs with hleaf
    · rw [firstStray?_eq_none.2 (List.forall_mem_singleton.2 hleaf)] at ht
      exact ht
    · have hfirst : firstStray? [t.leafOf] = some t.leafOf :=
        List.find?_cons_of_pos (by rw [Bool.eq_false_iff.2 hleaf]; rfl)
      exact fun bare => reports_of_stopsAt hfirst (ht bare)
  · cases hfirst : firstStray? (ms.flatMap Member.leaves) with
    | some leaf =>
      exact iff_of_true ⟨_, (reports_of_stopsAt hfirst hrecord).1⟩
        ⟨leaf, List.mem_of_find?_eq_some hfirst, isNamed_of_firstStray? hfirst⟩
    | none =>
      rw [hfirst] at hrecord
      obtain ⟨text, htext⟩ := hrecord
      refine iff_of_false (fun ⟨kind, hkind⟩ => nomatch htext.symm.trans hkind) ?_
      rintro ⟨leaf, hmem, hleaf⟩
      rw [firstStray?_eq_none.1 hfirst leaf hmem] at hleaf
      cases hleaf
  · cases hfirst : firstStray? (ms.flatMap Member.leaves) with
    | some leaf => exact reports_of_stopsAt hfirst hrecord
    | none =>
      rw [hfirst] at hmembers
      obtain ⟨texts, htexts⟩ := hmembers
      refine ⟨texts, forall₂_of_mapM htexts, ?_⟩
      rw [declare_record, htexts]
      rfl

end SchemaTypings.Typings
