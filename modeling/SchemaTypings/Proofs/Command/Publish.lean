/-
The published description is that of the objects that are accepted as settings.

`run_publish`: what the command writes is read back as a schema, and an object satisfies it if and only if it is accepted,
unless its context type has half a pair of surrogates. `not_satisfies_iff_accepted` is such an object: the schema asks for
a string that is not empty, which half of a pair is, but only a text is accepted.
-/
import SchemaTypings.Command.Run
import SchemaTypings.Proofs.Config.Published
import SchemaTypings.Proofs.Workspace.SavedSettings

namespace SchemaTypings.Command

open SchemaTypings.Config (Settings HasUnpairedContext exists_ofValue_iff)
open SchemaTypings.Json (Satisfies)
open SchemaTypings.Workspace

variable {out : String} {pretty : Bool} {t t' : Tree} {r : Report}

/-- the description is written as a file; if that cannot be, nothing changes -/
theorem run_publish_apply [Yaml.Stack] (out : String) (pretty : Bool) (t : Tree) :
    ((Invocation.publish out pretty).run : StateM Tree Ending) t =
      match t.write (showPath out) (encode (String.ofList (Config.Published.text pretty))) with
      | .ok t' => (.report ⟨0, "", labelled "Config schema written: " (showPath out)⟩, t')
      | .error f => (.fault (.file f), t) := by
  rw [Invocation.run, runPublish, bind_apply, write_apply, changing]
  cases t.write (showPath out) (encode (String.ofList (Config.Published.text pretty))) with
  | error f => rfl
  | ok t' => rfl

/-- **What is published is what is accepted.** The file is the text of a schema, and an object is accepted as settings if
and only if it satisfies the schema and its context type has no half of a pair of surrogates. -/
theorem run_publish [Yaml.Stack] (h : ((Invocation.publish out pretty).run : StateM Tree Ending) t = (.report r, t')) :
    ∃ text schema, t'.read (showPath out) = .ok (encode (String.ofList text)) ∧ Json.read? text = some schema ∧
      ∀ j : Json, j.typeName = "object" →
        ((∃ s, Settings.ofValue (.ofJson j) = .ok s) ↔ Satisfies schema j ∧ ¬ HasUnpairedContext j) := by
  rw [run_publish_apply] at h
  cases hwrite : t.write (showPath out) (encode (String.ofList (Config.Published.text pretty))) with
  | error f =>
    rw [hwrite] at h
    cases (Prod.mk.inj h).1
  | ok t'' =>
    rw [hwrite] at h
    obtain rfl : t'' = t' := (Prod.mk.inj h).2
    exact ⟨_, _, Tree.read_of_write hwrite, Config.Published.read?_text pretty, fun j hj => exists_ofValue_iff hj⟩

/-- the tree with the description in a file of its directory -/
def publishedTree : Tree :=
  confTree.put ["conf", "s.json"] (.file (encode (String.ofList (Config.Published.text true))))

theorem write_confTree :
    confTree.write (showPath "conf/s.json") (encode (String.ofList (Config.Published.text true))) = .ok publishedTree := by
  have hplace : confTree.filePlace (showPath "conf/s.json") = .ok ["conf", "s.json"] := rfl
  rw [Tree.write, hplace, publishedTree]

theorem run_publish_confTree :
    ((Invocation.publish "conf/s.json" true).run : StateM Tree Ending) confTree =
      (.report ⟨0, "", labelled "Config schema written: " (showPath "conf/s.json")⟩, publishedTree) := by
  rw [run_publish_apply, write_confTree]

/-- an object with an indent only, and one with a key besides -/
def indentOnly : Json := .object [("indent", .string "  ")]

def indentBeside : Json := .object [("indent", .string "  "), ("Indent", .null)]

theorem run_publish_indent :
    ∃ text schema, publishedTree.read (showPath "conf/s.json") = .ok (encode (String.ofList text)) ∧
      Json.read? text = some schema ∧ Satisfies schema indentOnly ∧ ¬ Satisfies schema indentBeside := by
  obtain ⟨text, schema, hread, hschema, hiff⟩ := run_publish run_publish_confTree
  have haccepted : Settings.ofValue (.ofJson indentOnly) =
      .ok ⟨Settings.defaultContext, .text Settings.defaultHeader, .text "  ", by decide⟩ := rfl
  have hrefused : ¬ ∃ s, Settings.ofValue (.ofJson indentBeside) = .ok s := fun ⟨_, h⟩ => by cases h
  have hpaired : ¬ HasUnpairedContext indentBeside := fun ⟨_, _, hes, hget⟩ => by
    cases hes
    cases hget
  refine ⟨text, schema, hread, hschema, ((hiff indentOnly rfl).1 ⟨_, haccepted⟩).1, fun hsatisfies => ?_⟩
  exact hrefused ((hiff indentBeside rfl).2 ⟨hsatisfies, hpaired⟩)

/-- an object whose context type is half of a pair of surrogates -/
def unpairedContext : Json := .object [(Settings.contextKey, .unpaired Settings.half)]

theorem satisfies_unpairedContext : Satisfies Config.Published.document unpairedContext := by
  rw [Config.Published.satisfies_document_iff]
  refine ⟨?_, ⟨?_, nofun, nofun⟩, rfl⟩
  · rintro v ⟨key, hkey, hmem⟩
    obtain ⟨rfl, -⟩ := Prod.mk.inj (List.mem_singleton.1 hmem)
    exact hkey List.mem_cons_self
  · rintro v hv
    obtain rfl : .unpaired Settings.half = v := Option.some.inj hv
    exact ⟨rfl, fun n hn => (Option.some.inj hn).le⟩

/-- **An object may satisfy the description and be refused.** -/
theorem not_satisfies_iff_accepted :
    ¬ ∀ (out : String) (pretty : Bool) (t t' : Tree) (r : Report) (text : List Char) (schema : Json),
      ((Invocation.publish out pretty).run : StateM Tree Ending) t = (.report r, t') →
      t'.read (showPath out) = .ok (encode (String.ofList text)) → Json.read? text = some schema →
      ∀ j : Json, j.typeName = "object" → (Satisfies schema j ↔ ∃ s, Settings.ofValue (.ofJson j) = .ok s) := by
  intro h
  have hread := Tree.read_of_write write_confTree
  have hschema := Config.Published.read?_text true
  have hrefused : ¬ ∃ s, Settings.ofValue (.ofJson unpairedContext) = .ok s := fun ⟨_, h⟩ => by cases h
  exact hrefused ((h _ _ _ _ _ _ _ run_publish_confTree hread hschema unpairedContext rfl).1 satisfies_unpairedContext)

end SchemaTypings.Command
