/-
What declarations look like.

The declaration of a definition is a row of lines (`declarationLines`), each with an LF at its end. If the indent has no
line ends, none of them is empty and none has an LF within it, so that they are the lines that are read back from the
text, and the empty line after a declaration is the first one (`paragraphs_bodyText`). Apart from the indent, a declaration
has only the characters of names and a few marks (`isDeclarationCharacter`), whatever a schema says beside its names.
-/
import SchemaTypings.Proofs.Text.Pieces
import SchemaTypings.Proofs.Typings.Unambiguous

namespace SchemaTypings.Typings

open SchemaTypings.Schema SchemaTypings.Text
open SchemaTypings.Sdl (isName isNameCharacter)

/-! ## Characters -/

/-- characters of names, and those that a declaration has between them -/
def isDeclarationCharacter (c : Char) : Bool :=
  isNameCharacter c || [' ', '\x7b', '\x7d', '<', '>', '?', ':', ';', ',', '|', '=', '\''].contains c

/-- whether a text has only characters of declarations -/
def IsPlain (s : String) : Prop := ∀ c ∈ s.toList, isDeclarationCharacter c = true

instance (s : String) : Decidable (IsPlain s) :=
  decidable_of_iff (s.toList.all isDeclarationCharacter = true) List.all_eq_true

theorem IsPlain.append {s t : String} (hs : IsPlain s) (ht : IsPlain t) : IsPlain (s ++ t) := by
  intro c hc
  rw [String.toList_append] at hc
  exact List.forall_mem_append.2 ⟨hs, ht⟩ c hc

theorem isPlain_of_all {s : String} (h : ∀ c ∈ s.toList, isNameCharacter c = true) : IsPlain s :=
  fun c hc => by rw [isDeclarationCharacter, h c hc, Bool.true_or]

theorem isPlain_of_isName {n : String} (h : isName n = true) : IsPlain n := isPlain_of_all (all_of_isName h)

theorem isPlain_intercalate {sep : String} (hsep : IsPlain sep) {ss : List String} (hss : ∀ s ∈ ss, IsPlain s) :
    IsPlain (sep.intercalate ss) := by
  induction ss with
  | nil => exact List.forall_mem_nil _
  | cons s ss ih =>
    obtain ⟨hs, hrest⟩ := List.forall_mem_cons.1 hss
    cases ss with
    | nil => rwa [String.intercalate_singleton]
    | cons t ts =>
      rw [String.intercalate_cons_cons]
      exact (hs.append hsep).append (ih hrest)

theorem Applied.isPlain_text {a : Applied} (h : a.Over isNameCharacter) : IsPlain a.text := by
  induction a with
  | name n => exact isPlain_of_all h
  | apply n a ih =>
    have hopen : IsPlain "<" := by decide
    have hclose : IsPlain ">" := by decide
    exact (((isPlain_of_all h.1).append hopen).append (ih h.2)).append hclose

theorem isPlain_render {t : TypeRef String} (h : t.WellFormed (isName · = true)) : IsPlain (render t) := by
  rw [← text_full]
  exact Applied.isPlain_text (over_full h)

theorem isPlain_renderBare {t : TypeRef String} (h : t.WellFormed (isName · = true)) : IsPlain (renderBare t) := by
  rw [← text_bare]
  exact Applied.isPlain_text (over_bare h)

theorem isPlain_optionalMark (t : TypeRef String) : IsPlain (optionalMark t) := by
  unfold optionalMark
  split_ifs <;> decide

theorem isPlain_argumentText {a : Argument String} (h : a.WellFormed (isName · = true)) : IsPlain (argumentText a) := by
  have hcolon : IsPlain ": " := by decide
  exact (((isPlain_of_isName h.1).append (isPlain_optionalMark _)).append hcolon).append (isPlain_renderBare h.2)

theorem isPlain_memberType {k : RecordKind} {m : Member String} (h : m.WellFormed (isName · = true) k) :
    IsPlain (memberType m) := by
  cases m with
  | input n t => exact isPlain_render h.2.2
  | field n t args =>
    obtain ⟨_, _, ht, hargs⟩ := h
    have htype := isPlain_render ht
    cases args with
    | nil =>
      have hopen : IsPlain "Field<" := by decide
      have hclose : IsPlain ">" := by decide
      exact (hopen.append htype).append hclose
    | cons a args =>
      have hopen : IsPlain "Resolve<" := by decide
      have hbrace : IsPlain ", \x7b" := by decide
      have hclose : IsPlain "\x7d>" := by decide
      have hcomma : IsPlain ", " := by decide
      have htexts : ∀ s ∈ (a :: args).map argumentText, IsPlain s := by
        intro s hs
        obtain ⟨b, hb, rfl⟩ := List.mem_map.1 hs
        exact isPlain_argumentText (hargs b hb)
      have hlist := isPlain_intercalate hcomma htexts
      exact (((hopen.append htype).append hbrace).append hlist).append hclose

def memberRest (m : Member String) : String := " " ++ memberType m ++ ";"

/-- the colon of a member, with a mark before it if the member may be left out -/
def colon (m : Member String) : String := if (typeOf m).isNonNull then ":" else "?:"

theorem memberText_eq (m : Member String) : memberText m = m.name ++ colon m ++ memberRest m := by
  apply String.toList_inj.1
  cases m with
  | input n t => cases h : t.isNonNull <;> simp [memberText, memberMark, optionalMark, memberRest, colon, typeOf, h]
  | field n t args => cases h : t.isNonNull <;> simp [memberText, memberMark, optionalMark, memberRest, colon, typeOf, h]

theorem isPlain_memberText {k : RecordKind} {m : Member String} (h : m.WellFormed (isName · = true) k) :
    IsPlain (memberText m) := by
  have hcolon : IsPlain (colon m) := by
    unfold colon
    split_ifs <;> decide
  have hspace : IsPlain " " := by decide
  have hend : IsPlain ";" := by decide
  rw [memberText_eq]
  exact ((isPlain_of_isName (isName_name h)).append hcolon).append ((hspace.append (isPlain_memberType h)).append hend)

theorem isPlain_unionText {vs : List String} (h : ∀ v ∈ vs, isName v = true) : IsPlain (unionText vs) := by
  have hquote : IsPlain "'" := by decide
  unfold unionText
  split_ifs
  · decide
  · refine isPlain_intercalate (by decide) fun s hs => ?_
    obtain ⟨v, hv, rfl⟩ := List.mem_map.1 hs
    exact (hquote.append (isPlain_of_isName (h v hv))).append hquote

/-! ## Lines -/

def interfaceHead (n : String) : String := "export interface " ++ n ++ " \x7b"

def unionLine (n : String) (vs : List String) : String := "export type " ++ n ++ " = " ++ unionText vs ++ ";"

def declarationLines (indent : String) : Definition String → List String
  | .record _ n ms => interfaceHead n :: ms.map (fun m => indent ++ memberText m) ++ ["\x7d"]
  | .enum n vs => [unionLine n vs]
  | .other _ _ _ => []

theorem toList_interfaceHead (n : String) (r : List Char) :
    (interfaceHead n).toList ++ r = "export interface ".toList ++ (n.toList ++ ' ' :: '\x7b' :: r) := by
  unfold interfaceHead
  simp only [String.toList_append, List.append_assoc]
  simp

theorem toList_unionLine (n : String) (vs : List String) (r : List Char) :
    (unionLine n vs).toList ++ r =
      "export type ".toList ++ (n.toList ++ ' ' :: '=' :: ' ' :: ((unionText vs).toList ++ ';' :: r)) := by
  unfold unionLine
  simp only [String.toList_append, List.append_assoc]
  simp

/-- **A declaration is its lines,** each with an LF at its end. -/
theorem toList_declaration (indent : String) (d : Definition String) :
    (declaration indent d).toList = ((declarationLines indent d).map String.toList).flatMap fun l => l ++ ['\n'] := by
  cases d with
  | record k n ms =>
    have hlines : ms.flatMap (lineOf indent) = ms.flatMap fun m => (indent ++ memberText m).toList ++ ['\n'] :=
      List.flatMap_congr fun m _ => by rw [lineOf, String.toList_append]
    have htext := toList_recordText indent n ms []
    rw [List.append_nil, hlines] at htext
    refine htext.trans ?_
    simp only [declarationLines, List.map_append, List.map_cons, List.map_nil, List.map_map, List.flatMap_append,
      List.flatMap_cons, List.flatMap_nil, List.flatMap_map, toList_interfaceHead, List.append_assoc]
    rfl
  | enum n vs =>
    have htext := toList_enumText n vs []
    rw [List.append_nil] at htext
    refine htext.trans ?_
    simp only [declarationLines, List.map_cons, List.map_nil, List.flatMap_cons, List.flatMap_nil, toList_unionLine,
      List.append_nil]
  | other k n ns => rfl

/-- no line ends among the characters of declarations -/
theorem IsPlain.notMem {s : String} (h : IsPlain s) : '\n' ∉ s.toList := fun hmem => absurd (h _ hmem) (by decide)

theorem isPlain_interfaceHead {n : String} (h : isName n = true) : IsPlain (interfaceHead n) := by
  have hopen : IsPlain "export interface " := by decide
  have hclose : IsPlain " \x7b" := by decide
  exact (hopen.append (isPlain_of_isName h)).append hclose

theorem isPlain_unionLine {n : String} {vs : List String} (hn : isName n = true) (hvs : ∀ v ∈ vs, isName v = true) :
    IsPlain (unionLine n vs) := by
  have hopen : IsPlain "export type " := by decide
  have hequals : IsPlain " = " := by decide
  have hclose : IsPlain ";" := by decide
  exact (((hopen.append (isPlain_of_isName hn)).append hequals).append (isPlain_unionText hvs)).append hclose

/-- a text that ends with another one is not empty if that one is not -/
theorem toList_append_ne_nil (s : String) {t : String} (ht : t.toList ≠ []) : (s ++ t).toList ≠ [] := by
  rw [String.toList_append]
  exact List.append_ne_nil_of_right_ne_nil _ ht

/-- **Declarations have no empty lines.** -/
theorem isLine_of_mem_declarationLines {indent : String} (hindent : '\n' ∉ indent.toList) {d : Definition String}
    (hd : d.WellFormed (isName · = true)) : ∀ l ∈ (declarationLines indent d).map String.toList, IsLine l := by
  rw [List.forall_mem_map]
  cases d with
  | record k n ms =>
    obtain ⟨hn, hms⟩ := hd
    have hhead : IsLine (interfaceHead n).toList :=
      ⟨toList_append_ne_nil _ (by decide), (isPlain_interfaceHead hn).notMem⟩
    have hmember : ∀ m ∈ ms, IsLine (indent ++ memberText m).toList := by
      intro m hm
      refine ⟨toList_append_ne_nil _ (toList_append_ne_nil _ (by decide)), ?_⟩
      rw [String.toList_append, List.mem_append, not_or]
      exact ⟨hindent, (isPlain_memberText (hms m hm)).notMem⟩
    have hlast : IsLine "\x7d".toList := ⟨by decide, by decide⟩
    rw [declarationLines]
    exact List.forall_mem_append.2
      ⟨List.forall_mem_cons.2 ⟨hhead, List.forall_mem_map.2 hmember⟩, List.forall_mem_singleton.2 hlast⟩
  | enum n vs =>
    have hline := isPlain_unionLine hd.1 fun v hv => (hd.2 v hv).1
    exact List.forall_mem_singleton.2 ⟨toList_append_ne_nil _ (by decide), hline.notMem⟩
  | other k n ns => exact List.forall_mem_nil _

theorem declarationLines_ne_nil (indent : String) {d : Definition String} (hd : d.isDeclared = true) :
    (declarationLines indent d).map String.toList ≠ [] := by
  cases d with
  | record k n ms => exact List.cons_ne_nil _ _
  | enum n vs => exact List.cons_ne_nil _ _
  | other k n ns => cases hd

/-! ## Documents -/

/-- the text of a declaration without the LF at its end -/
def block (indent : String) (d : Definition String) : List Char :=
  ['\n'].intercalate ((declarationLines indent d).map String.toList)

theorem splitOn_block {indent : String} (hindent : '\n' ∉ indent.toList) {d : Definition String}
    (hd : d.isDeclared = true ∧ d.WellFormed (isName · = true)) :
    (block indent d).splitOn '\n' = (declarationLines indent d).map String.toList :=
  List.splitOn_intercalate '\n' (fun l hl => (isLine_of_mem_declarationLines hindent hd.2 l hl).2)
    (declarationLines_ne_nil indent hd.1)

theorem toList_bodyText_cons (indent : String) {d : Definition String} (hd : d.isDeclared = true)
    (ds : List (Definition String)) :
    (bodyText indent (d :: ds)).toList = block indent d ++ '\n' :: '\n' :: (bodyText indent ds).toList := by
  rw [bodyText_cons, String.toList_append, String.toList_append, toList_declaration,
    flatMap_ended (declarationLines_ne_nil indent hd), block]
  simp

/-- **The pieces between the empty lines are the declarations,** each one by itself. -/
theorem paragraphs_bodyText {indent : String} (hindent : '\n' ∉ indent.toList) {ds : List (Definition String)}
    (hds : ∀ d ∈ ds, d.isDeclared = true ∧ d.WellFormed (isName · = true)) :
    paragraphs (bodyText indent ds).toList = ds.map (block indent) ++ [[]] := by
  induction ds with
  | nil => rfl
  | cons d ds ih =>
    obtain ⟨hd, hrest⟩ := List.forall_mem_cons.1 hds
    rw [toList_bodyText_cons indent hd.1, block, paragraphs_lines (declarationLines_ne_nil indent hd.1)
      (isLine_of_mem_declarationLines hindent hd.2), ih hrest]
    rfl

/-! ## What a block says -/

/-- the line of a member: the indent, the name, and a colon, with a mark before it if the member may be left out -/
def IsMemberLine (indent : String) (m : Member String) (line : List Char) : Prop :=
  ∃ rest, line = (indent ++ (m.name ++ (if (typeOf m).isNonNull then ":" else "?:") ++ rest)).toList ∧
    IsPlain (m.name ++ (if (typeOf m).isNonNull then ":" else "?:") ++ rest)

/-- the block of a record: a head, a line for each member, and a brace -/
structure IsInterface (indent n : String) (ms : List (Member String)) (text : List Char) : Prop where
  name : isName n = true
  head : IsPlain ("export interface " ++ n ++ " \x7b")
  lines : ∃ ls, text.splitOn '\n' = ("export interface " ++ n ++ " \x7b").toList :: ls ++ [['\x7d']] ∧
    List.Forall₂ (IsMemberLine indent) ms ls
  count : (text.splitOn '\n').length = ms.length + 2
  filled : ∀ l ∈ text.splitOn '\n', l ≠ []

/-- the block of an enum: one line with a literal for each value -/
structure IsUnion (n : String) (vs : List String) (text : List Char) : Prop where
  name : isName n = true
  values : ∀ v ∈ vs, isName v = true
  union : text = ("export type " ++ n ++ " = " ++
    (if vs = [] then "never" else " | ".intercalate (vs.map fun v => "'" ++ v ++ "'")) ++ ";").toList
  line : text.splitOn '\n' = [text]
  plain : ∀ c ∈ text, isDeclarationCharacter c = true

/-- the block of a definition; one without declaration has none -/
def IsBlock (indent : String) : Definition String → List Char → Prop
  | .record _ n ms => IsInterface indent n ms
  | .enum n vs => IsUnion n vs
  | .other _ _ _ => fun _ => False

theorem isMemberLine_memberText (indent : String) {k : RecordKind} {m : Member String}
    (h : m.WellFormed (isName · = true) k) : IsMemberLine indent m (indent ++ memberText m).toList := by
  have hplain := isPlain_memberText h
  rw [memberText_eq] at hplain ⊢
  exact ⟨memberRest m, rfl, hplain⟩

/-- **Each definition has its block.** -/
theorem isBlock_block {indent : String} (hindent : '\n' ∉ indent.toList) {d : Definition String}
    (hd : d.isDeclared = true ∧ d.WellFormed (isName · = true)) : IsBlock indent d (block indent d) := by
  have hsplit := splitOn_block hindent hd
  have hlines := isLine_of_mem_declarationLines hindent hd.2
  cases d with
  | record k n ms =>
    obtain ⟨hn, hms⟩ := hd.2
    refine ⟨hn, isPlain_interfaceHead hn, ⟨ms.map fun m => (indent ++ memberText m).toList, ?_, ?_⟩, ?_, ?_⟩
    · rw [hsplit, declarationLines, List.map_append, List.map_cons, List.map_map]
      rfl
    · rw [List.forall₂_map_right_iff, List.forall₂_same]
      exact fun m hm => isMemberLine_memberText indent (hms m hm)
    · rw [hsplit, declarationLines]
      simp only [List.length_map, List.length_append, List.length_cons, List.length_nil]
    · rw [hsplit]
      exact fun l hl => (hlines l hl).1
  | enum n vs =>
    have hvs : ∀ v ∈ vs, isName v = true := fun v hv => (hd.2.2 v hv).1
    have hline : block indent (.enum n vs) = (unionLine n vs).toList := List.intercalate_singleton
    rw [hline] at hsplit ⊢
    exact ⟨hd.2.1, hvs, rfl, hsplit, isPlain_unionLine hd.2.1 hvs⟩
  | other k n ns => cases hd.1

end SchemaTypings.Typings
