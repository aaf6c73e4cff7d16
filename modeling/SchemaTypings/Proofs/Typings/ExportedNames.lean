/-
Names that a module exports.

A line that starts as a declaration does exports the name that follows (`exportedName?`). Of the lines of a declaration
this is the first one only, as long as members are indented by something that no declaration starts with
(`exportedNames_bodyText`).
-/
import SchemaTypings.Proofs.Typings.Shape

namespace SchemaTypings.Typings

open SchemaTypings.Schema SchemaTypings.Text
open SchemaTypings.Sdl (isName isNameCharacter)

/-- what an exported declaration starts with, up to its name -/
def exportStarts : List (List Char) := ["export interface ".toList, "export type ".toList]

def exportedName? (line : List Char) : Option String :=
  (exportStarts.find? (·.isPrefixOf line)).map fun start =>
    String.ofList ((line.drop start.length).takeWhile isNameCharacter)

/-- the names that a text exports, line by line -/
def exportedNames (text : List Char) : List String := (text.splitOn '\n').filterMap exportedName?

def helperNames : List String := ["ArrayOrValue", "Resolve", "Field", "Maybe"]

@[simp]
theorem exportedNames_append (cs ds : List Char) :
    exportedNames (cs ++ '\n' :: ds) = exportedNames cs ++ exportedNames ds := by
  rw [exportedNames, List.splitOn_append_cons_self, List.filterMap_append]
  rfl

/-- after the LF at the end of a text nothing is exported -/
theorem exportedNames_append_of_getLast? {cs : List Char} (h : cs.getLast? = some '\n') (ds : List Char) :
    exportedNames (cs ++ ds) = exportedNames cs ++ exportedNames ds := by
  obtain ⟨ls, rfl⟩ := List.getLast?_eq_some_iff.1 h
  have hempty : exportedNames [] = [] := rfl
  rw [List.append_assoc, List.singleton_append, exportedNames_append, exportedNames_append, hempty, List.append_nil]

/-- the parts of a module one after the other -/
theorem exportedNames_moduleText {helpers : String} (hlast : helpers.toList.getLast? = some '\n') (header body : String) :
    exportedNames (header ++ "\n" ++ helpers ++ body).toList =
      exportedNames header.toList ++ (exportedNames helpers.toList ++ exportedNames body.toList) := by
  have htext : (header ++ "\n" ++ helpers ++ body).toList =
      header.toList ++ '\n' :: (helpers.toList ++ body.toList) := by simp
  rw [htext, exportedNames_append, exportedNames_append_of_getLast? hlast]

/-! ## Helpers -/

theorem getLast?_helperTypes (context : String) : (helperTypes context).toList.getLast? = some '\n' := by
  have hafter : helpersAfter.toList.getLast? = some '\n' := by
    unfold helpersAfter
    rw [String.toList_append, String.toList_ofList, List.getLast?_append]
    rfl
  rw [helperTypes_eq, String.toList_append, List.getLast?_append, hafter]
  rfl

/-! ## Lines -/

theorem exportedName?_of_head {line : List Char} (h : line.head? ≠ some 'e') : exportedName? line = none := by
  have hnone : ∀ start ∈ exportStarts, start.isPrefixOf line = false := by
    have hfirst : ∀ start ∈ exportStarts, start.head? = some 'e' := by decide
    intro start hstart
    rw [Bool.eq_false_iff, ne_eq, List.isPrefixOf_iff_prefix]
    rintro ⟨rest, rfl⟩
    rw [List.head?_append, hfirst start hstart] at h
    exact h rfl
  rw [exportedName?, List.find?_eq_none.2 fun start hstart => by rw [hnone start hstart]; exact Bool.false_ne_true]
  rfl

/-- a name that is followed by another character -/
theorem takeWhile_name {n : String} (hn : isName n = true) {c : Char} (hc : isNameCharacter c = false) (cs : List Char) :
    String.ofList ((n.toList ++ c :: cs).takeWhile isNameCharacter) = n := by
  rw [(takeWhile_append_stop (all_of_isName hn) (by rw [List.head?_cons, Option.any_some, hc])).1, String.ofList_toList]

theorem exportedName?_interfaceHead {n : String} (hn : isName n = true) :
    exportedName? (interfaceHead n).toList = some n := by
  have htext := toList_interfaceHead n []
  rw [List.append_nil] at htext
  rw [htext]
  exact congrArg some (takeWhile_name hn (by decide) _)

theorem exportedName?_unionLine {n : String} (hn : isName n = true) (vs : List String) :
    exportedName? (unionLine n vs).toList = some n := by
  have htext := toList_unionLine n vs []
  rw [List.append_nil] at htext
  rw [htext]
  exact congrArg some (takeWhile_name hn (by decide) _)

theorem exportedName?_member {indent : String} {c : Char} (hstart : indent.toList.head? = some c) (hc : c ≠ 'e')
    (m : Member String) : exportedName? (indent ++ memberText m).toList = none := by
  refine exportedName?_of_head ?_
  rw [String.toList_append, List.head?_append, hstart]
  simpa using hc

/-! ## Declarations -/

theorem exportedNames_block {indent : String} (hindent : '\n' ∉ indent.toList) {c : Char}
    (hstart : indent.toList.head? = some c) (hc : c ≠ 'e') {d : Definition String}
    (hd : d.isDeclared = true ∧ d.WellFormed (isName · = true)) : exportedNames (block indent d) = d.name?.toList := by
  rw [exportedNames, splitOn_block hindent hd]
  cases d with
  | record k n ms =>
    have hmembers : (ms.map fun m => (indent ++ memberText m).toList).filterMap exportedName? = [] := by
      rw [List.filterMap_map, List.filterMap_eq_nil_iff]
      exact fun m _ => exportedName?_member hstart hc m
    have hlast : exportedName? "\x7d".toList = none := exportedName?_of_head (by decide)
    rw [declarationLines, List.map_append, List.map_cons, List.map_map, List.filterMap_append,
      List.filterMap_cons_some (exportedName?_interfaceHead hd.2.1), Function.comp_def, hmembers, List.map_singleton,
      List.filterMap_cons_none hlast]
    rfl
  | enum n vs =>
    rw [declarationLines, List.map_singleton, List.filterMap_cons_some (exportedName?_unionLine hd.2.1 vs)]
    rfl
  | other k n ns => cases hd.1

/-- **Declarations export the names of their definitions,** in their order. -/
theorem exportedNames_bodyText {indent : String} (hindent : '\n' ∉ indent.toList) {c : Char}
    (hstart : indent.toList.head? = some c) (hc : c ≠ 'e') {ds : List (Definition String)}
    (hds : ∀ d ∈ ds, d.isDeclared = true ∧ d.WellFormed (isName · = true)) :
    exportedNames (bodyText indent ds).toList = ds.filterMap Definition.name? := by
  induction ds with
  | nil => rfl
  | cons d ds ih =>
    obtain ⟨hd, hrest⟩ := List.forall_mem_cons.1 hds
    have hempty : exportedNames ('\n' :: (bodyText indent ds).toList) = exportedNames (bodyText indent ds).toList :=
      exportedNames_append [] _
    rw [toList_bodyText_cons indent hd.1, exportedNames_append, exportedNames_block hindent hstart hc hd, hempty,
      ih hrest, List.filterMap_cons]
    cases d.name? <;> rfl

end SchemaTypings.Typings
