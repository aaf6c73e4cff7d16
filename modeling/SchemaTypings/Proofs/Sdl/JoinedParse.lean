/-
The definitions of a text with another text below it.

What is accepted has no broken token: a rule would have had to take it, and no rule does (`Rule.unbroken`, one case for
each operation on tokens). So the tokens of a text that is parsed go on with those of the text below, and if all
definitions have declarations, they are followed by the definitions of the text below (`Declares.above`).
-/
import SchemaTypings.Proofs.Sdl.Grammar
import SchemaTypings.Proofs.Sdl.JoinedTokens
import SchemaTypings.Proofs.Sdl.RoundTrip
import SchemaTypings.Proofs.Sdl.Rule

namespace SchemaTypings.Sdl

open SchemaTypings.Schema

def Unbroken (ts : List Token) : Prop := ∀ d, Token.broken d ∉ ts

namespace Parser

variable {α β : Type} {ts rest : List Token}

/-- tokens are taken only if they have no defect, and those that are left do not start with one -/
structure PassesOver (ts rest : List Token) : Prop where
  unbroken : Unbroken rest → Unbroken ts
  sound : Parser.sound rest = .ok rest

theorem PassesOver.refl (h : Parser.sound ts = .ok ts) : PassesOver ts ts := ⟨id, h⟩

theorem PassesOver.trans {mid : List Token} (h : PassesOver ts mid) (h' : PassesOver mid rest) : PassesOver ts rest :=
  ⟨fun hrest => h.unbroken (h'.unbroken hrest), h'.sound⟩

/-- the current token is no defect, and is dropped if the next is none either -/
theorem passesOver_tail (hts : Parser.sound ts = .ok ts) (h : Parser.sound ts.tail = .ok rest) :
    PassesOver ts rest := by
  obtain rfl := sound_eq_ok h
  refine ⟨fun hrest d hd => ?_, h⟩
  cases ts with
  | nil => cases hd
  | cons t ts =>
    rcases List.mem_cons.1 hd with rfl | hd
    · cases hts
    · exact hrest d hd

theorem map_sound_eq_ok {a b : α} (h : (Parser.sound ts).map (a, ·) = .ok (b, rest)) :
    Parser.sound ts = .ok rest := by
  obtain ⟨r, hs, ⟨⟩⟩ := Outcome.map_eq_ok.1 h
  exact hs

section

variable {item : Parser α}
  (hitem : ∀ {ts a rest}, sound ts = .ok ts → item ts = .ok (a, rest) → PassesOver ts rest)

include hitem

theorem upTo_passesOver (close : Punct) {as : List α} (hts : Parser.sound ts = .ok ts)
    (h : upTo close item ts = .ok (as, rest)) : PassesOver ts rest := by
  fun_induction upTo close item ts generalizing as rest with
  | case1 ts hclose => exact passesOver_tail hts (map_sound_eq_ok h)
  | case2 ts hclose e he => cases h
  | case3 ts hclose a mid ha hlt ih =>
    have hfirst := hitem hts ha
    obtain ⟨r, hm, ⟨⟩⟩ := Outcome.map_eq_ok.1 h
    exact hfirst.trans (ih hfirst.sound hm)
  | case4 ts hclose a mid ha hlt => cases h

theorem whileAt_passesOver (p : Punct) {as : List α} (hts : Parser.sound ts = .ok ts)
    (h : whileAt p item ts = .ok (as, rest)) : PassesOver ts rest := by
  fun_induction whileAt p item ts generalizing as rest with
  | case1 ts hp e he => cases h
  | case2 ts hp a mid ha hlt ih =>
    have hfirst := hitem hts ha
    obtain ⟨r, hm, ⟨⟩⟩ := Outcome.map_eq_ok.1 h
    exact hfirst.trans (ih hfirst.sound hm)
  | case3 ts hp a mid ha hlt => cases h
  | case4 ts hp =>
    obtain ⟨_, rfl⟩ := Prod.mk.inj (Except.ok.inj h)
    exact .refl hts

theorem upToEnd_unbroken {as : List α} (hts : Parser.sound ts = .ok ts) (h : upToEnd item ts = .ok as) :
    Unbroken ts := by
  fun_induction upToEnd item ts generalizing as with
  | case1 => exact fun d hd => (List.not_mem_nil hd).elim
  | case2 => cases h
  | case3 ts hne a mid ha hlt ih =>
    have hfirst := hitem hts ha
    obtain ⟨bs, hm, -⟩ := Outcome.map_eq_ok.1 h
    exact hfirst.unbroken (ih hfirst.sound hm)
  | case4 => cases h

end

/-- **No rule takes a broken token.** -/
theorem Rule.unbroken {p : Parser α} (hp : Rule p) {a : α} (hts : Parser.sound ts = .ok ts)
    (h : p ts = .ok (a, rest)) : PassesOver ts rest := by
  induction hp generalizing ts rest with
  | pure a =>
    obtain ⟨_, rfl⟩ := pure_eq_ok.1 h
    exact .refl hts
  | bind _ _ ihp ihf =>
    obtain ⟨b, mid, hb, h⟩ := bind_eq_ok.1 h
    have hfirst := ihp hts hb
    exact hfirst.trans (ihf b hfirst.sound h)
  | current =>
    obtain ⟨_, rfl⟩ := Prod.mk.inj (Except.ok.inj h)
    exact .refl hts
  | following =>
    obtain ⟨r, hs, ⟨⟩⟩ := Outcome.map_eq_ok.1 h
    exact .refl hts
  | advance => exact passesOver_tail hts (map_sound_eq_ok h)
  | refuse c => cases h
  | refuseBack back c => cases h
  | unexpected => cases h
  | unexpectedNext t => cases h
  | upTo close _ ih => exact upTo_passesOver ih close hts h
  | whileAt p _ ih => exact whileAt_passesOver ih p hts h

end Parser

theorem document_unbroken {ts : List Token} {ds : List (Definition String)} (h : document ts = .ok ds) :
    Unbroken ts := by
  unfold document at h
  split at h
  · cases h
  · cases h
  · next us _ hs =>
    obtain rfl := Parser.sound_eq_ok hs
    exact Parser.upToEnd_unbroken Parser.definition_rule.unbroken hs h

theorem document_of_parse {text : List Char} {ds : List (Definition String)} (h : parse text = .ok ds) :
    document (tokens text) = .ok ds :=
  Outcome.mapError_eq_ok.1 h

/-- a text is read as definitions that all have declarations -/
structure Declares (text : List Char) (ds : List (Definition String)) : Prop where
  parses : parse text = .ok ds
  declared : ∀ d ∈ ds, d.isDeclared = true

/-- **A text above another has the definitions of both**, one after the other, if they all have declarations. -/
theorem Declares.above {upper lower : List Char} {ds es : List (Definition String)} (h : Declares upper ds)
    (h' : Declares lower es) : Declares (above upper lower) (ds ++ es) := by
  have hread := document_of_parse h.parses
  refine ⟨parse_of_document ?_, List.forall_mem_append.2 ⟨h.declared, h'.declared⟩⟩
  rw [tokens_above (document_unbroken hread)]
  exact document_append hread h.declared (document_of_parse h'.parses) h'.declared

/-- any number of texts, one below the other -/
theorem Declares.intercalate {text : List Char} {ds : List (Definition String)} (h : Declares text ds)
    {texts : List (List Char)} {dss : List (List (Definition String))} (hs : List.Forall₂ Declares texts dss) :
    Declares (['\n'].intercalate (text :: texts)) (ds ++ dss.flatten) := by
  induction hs generalizing text ds with
  | nil => simpa using h
  | @cons lower es texts dss h' _ ih =>
    rw [List.intercalate_cons_cons, List.append_assoc, List.singleton_append]
    exact h.above (ih h')

end SchemaTypings.Sdl
