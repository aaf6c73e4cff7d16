/-
When a module exports each name once.

With the default settings a module exports the names of the helpers and those of its definitions, and nothing else
(`moduleOfText_exportedNames`). Definitions are not kept from having the names of helpers: a module whose definitions have
different names exports each name once if and only if none of them does.
-/
import SchemaTypings.Proofs.Typings.ExportedNames
import SchemaTypings.Proofs.Workspace.SameModule

namespace SchemaTypings.Workspace

open SchemaTypings.Config SchemaTypings.Schema SchemaTypings.Typings

-- a text that is written out is taken as its characters here: decoding its bytes is what makes evaluation slow
theorem exportedNames_header : exportedNames Settings.default.header.toList = [] := by
  unfold Settings.default Settings.defaultHeader
  rw [String.toList_ofList]
  decide

theorem exportedNames_helperTypes : exportedNames (helperTypes Settings.default.context).toList = helperNames := by
  rw [helperTypes_eq]
  unfold Settings.default helpersBefore helpersAfter Settings.defaultContext
  simp only [String.toList_append]
  rw [String.toList_ofList, String.toList_ofList, String.toList_ofList, String.toList_ofList, String.toList_ofList,
    String.toList_ofList]
  rfl

/-- the header exports no name, the helpers theirs, and the declarations those of the definitions -/
theorem exportedNames_of_parse {text : List Char} {ds : List (Definition String)} {out : String}
    (hparse : Sdl.parse text = .ok ds) (h : moduleOfText Settings.default text = .ok out) :
    exportedNames out.toList = helperNames ++ ds.filterMap Definition.name? := by
  obtain ⟨ds', hparse', hds, rfl⟩ := wellFormed_of_moduleOfText h
  obtain rfl : ds' = ds := Except.ok.inj (hparse'.symm.trans hparse)
  have hbody : exportedNames (bodyText Settings.default.indent ds').toList = ds'.filterMap Definition.name? := by
    have hindent : Settings.default.indent.toList.head? = some '\t' := by decide
    exact exportedNames_bodyText (by decide) hindent (by decide) hds
  rw [Text.TextLike.ofText_string, Text.TextLike.ofText_string, exportedNames_moduleText (getLast?_helperTypes _), exportedNames_header, exportedNames_helperTypes, hbody,
    List.nil_append]

/-- **What a module exports.** The names are those of the helpers and of the definitions, in their order. They are
different from one another if and only if those of the definitions are, and no definition is named like a helper. -/
theorem moduleOfText_exportedNames {text : List Char} {out : String}
    (h : moduleOfText Settings.default text = .ok out) :
    ∃ ds, Sdl.parse text = .ok ds ∧ (∀ d ∈ ds, d.name?.isSome = true) ∧
      exportedNames out.toList = helperNames ++ ds.filterMap Definition.name? ∧
      ((ds.filterMap Definition.name?).Nodup →
        ((exportedNames out.toList).Nodup ↔ ∀ d ∈ ds, ∀ n ∈ helperNames, d.name? ≠ some n)) := by
  obtain ⟨ds, hparse, hdeclared, -⟩ := moduleOfText_eq_ok h
  have hnames := exportedNames_of_parse hparse h
  have hnamed : ∀ d ∈ ds, d.name?.isSome = true := by
    intro d hd
    cases d with
    | other k n ns => cases hdeclared _ hd
    | _ => rfl
  refine ⟨ds, hparse, hnamed, hnames, fun hdistinct => ?_⟩
  have hhelpers : helperNames.Nodup := by decide
  rw [hnames, List.nodup_append']
  constructor
  · rintro ⟨-, -, hdisjoint⟩ d hd n hn hname
    exact hdisjoint hn (List.mem_filterMap.2 ⟨d, hd, hname⟩)
  · intro hfree
    refine ⟨hhelpers, hdistinct, fun n hn hmem => ?_⟩
    obtain ⟨d, hd, hname⟩ := List.mem_filterMap.1 hmem
    exact hfree d hd n hn hname

/-- definitions of which one is named like a helper in other letters, and one like the start of a helper -/
def nearbyText : List Char := "enum maybe \x7b A \x7d type Resolv \x7b maybe: maybe \x7d".toList

theorem moduleOfText_exportedNames_nearby :
    ∃ out, moduleOfText Settings.default nearbyText = .ok out ∧ (exportedNames out.toList).Nodup := by
  obtain ⟨out, hout⟩ : ∃ out, moduleOfText Settings.default nearbyText = .ok out := exists_of_isOk (by decide +kernel)
  obtain ⟨ds, hparse, _, _, hiff⟩ := moduleOfText_exportedNames hout
  have hfacts : (Sdl.parse nearbyText).toOption.any (fun ds => decide ((ds.filterMap Definition.name?).Nodup ∧
      ∀ d ∈ ds, ∀ n ∈ helperNames, d.name? ≠ some n)) = true := by decide +kernel
  rw [hparse] at hfacts
  obtain ⟨hdistinct, hfree⟩ := of_decide_eq_true hfacts
  exact ⟨out, hout, (hiff hdistinct).2 hfree⟩

/-- a type that is named like a helper -/
def helperText : List Char := "type Maybe".toList

/-- **Definitions with different names do not suffice.** A type may be named like a helper, and then its name is exported
twice. -/
theorem not_exportedNames_nodup :
    ¬ ∀ text out ds, moduleOfText Settings.default text = .ok out → Sdl.parse text = .ok ds →
      (ds.filterMap Definition.name?).Nodup → (exportedNames out.toList).Nodup := by
  intro hclaim
  have hparse : Sdl.parse helperText = .ok [.record .object "Maybe" []] := by decide +kernel
  obtain ⟨out, hout⟩ : ∃ out, moduleOfText Settings.default helperText = .ok out := exists_of_isOk (by decide +kernel)
  have hnodup := hclaim helperText out _ hout hparse (by decide)
  have htwice : ¬ (helperNames ++ ["Maybe"]).Nodup := by decide
  rw [exportedNames_of_parse hparse hout] at hnodup
  exact htwice hnodup

end SchemaTypings.Workspace
