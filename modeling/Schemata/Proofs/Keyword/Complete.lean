import Schemata.Proofs.Json.Steps
import Schemata.Proofs.Keyword.Handed
import Schemata.Proofs.Keyword.Spent

/-!
# Expansion is complete

One keyword with a template, in a document of any kind: the keyword is expanded inside of its own
values before these go into the template, so that as long as the template does not have the keyword
in it, none is left in the end, at whatever depth it stood. Then there is nothing to expand any more.
A template with the keyword in it leaves it in every document that it is put into.

    no value of k is collected from v → no part of v past data has a member k
                                                                       (lacks_of_occurrences)
    the template does not have k in it ↔ expansion does away with k    (expandIn_complete_iff)
-/

namespace Schemata.Keyword

open Json (Value Step)

/-! ## Algorithm -/

/-- A way leads past the members that hold data. -/
def PastData (steps : List Step) : Prop := ∀ key ∈ dataKeys, Step.member key ∉ steps

/-- No object in a document has a member of a name, unless it is within data. -/
def Lacks (name : String) (document : Value) : Prop :=
  ∀ steps members, PastData steps → document.part? steps = some (.object members) →
    name ∉ Entries.keys members

/-- Expansion does away with a keyword in a document: no value of it is collected any more, it is
nowhere in the document, and to expand it again changes nothing. -/
structure Exhausts (keyword : Keyword) (document : Value) : Prop where
  collected : occurrences keyword.name (keyword.expandIn document) = []
  lacks : Lacks keyword.name (keyword.expandIn document)
  again : keyword.expandIn (keyword.expandIn document) = keyword.expandIn document

/-! ## Ways past data -/

theorem pastData_nil : PastData [] := fun _ _ => List.not_mem_nil

theorem pastData_cons {step : Step} {steps : List Step} :
    PastData (step :: steps) ↔ (∀ key ∈ dataKeys, step ≠ .member key) ∧ PastData steps := by
  constructor
  · intro h
    refine ⟨fun key hkey heq => h key hkey ?_, fun key hkey hmem => h key hkey ?_⟩
    · rw [heq]
      exact List.mem_cons_self
    · exact List.mem_cons_of_mem step hmem
  · rintro ⟨hstep, hsteps⟩ key hkey hmem
    rcases List.mem_cons.1 hmem with heq | hmem
    · exact hstep key hkey heq.symm
    · exact hsteps key hkey hmem

/-! ## Documents without a keyword -/

variable {name : String}

/-- Where no value of a keyword is collected, no object has a member of its name. -/
theorem not_mem_keys_of_occurrences {members : List (String × Value)}
    (h : occurrencesInMembers name members = []) : name ∉ Entries.keys members := by
  intro hmem
  obtain ⟨⟨key, value⟩, hmember, rfl⟩ := List.mem_map.1 hmem
  have hvalue : value ∈ occurrencesInMembers key members :=
    mem_occurrencesInMembers.2 ⟨(key, value), hmember, by
      rw [occurrences_single_self]
      exact List.mem_singleton.2 rfl⟩
  rw [h] at hvalue
  cases hvalue

/-- If no value of a keyword is collected from the whole, none is from a part past data. -/
theorem occurrences_of_step? {document child : Value} {step : Step}
    (h : occurrences name document = []) (hstep : document.step? step = some child)
    (hdata : ∀ key ∈ dataKeys, step ≠ .member key) : occurrences name child = [] := by
  have hnone : ∀ value, value ∉ occurrences name document := by
    intro value hvalue
    rw [h] at hvalue
    cases hvalue
  refine List.eq_nil_iff_forall_not_mem.2 fun value hvalue => ?_
  rcases Value.step?_cases hstep with
    ⟨members, key, rfl, rfl, hget⟩ | ⟨items, index, rfl, rfl, hitem⟩
  · have hmember := Entries.mem_of_get? hget
    have habsent := not_mem_keys_of_occurrences h
    have hname : key ≠ name := by
      rintro rfl
      exact habsent (List.mem_map_of_mem hmember)
    have hkey : key ∉ dataKeys := fun hmem => hdata key hmem rfl
    refine hnone value (mem_occurrencesInMembers.2 ⟨(key, child), hmember, ?_⟩)
    rw [occurrences_single_of_ne hname hkey]
    exact hvalue
  · exact hnone value (mem_occurrencesInItems.2 ⟨child, List.mem_of_getElem? hitem, hvalue⟩)

/-- A document from which no value of a keyword is collected has the keyword nowhere, also not within
values of the keyword. -/
theorem lacks_of_occurrences {document : Value} (h : occurrences name document = []) :
    Lacks name document := by
  intro steps members hpast hpart
  induction steps generalizing document with
  | nil =>
    cases hpart
    exact not_mem_keys_of_occurrences h
  | cons step steps ih =>
    obtain ⟨child, hchild, hrest⟩ := Value.part?_cons_eq_some.1 hpart
    obtain ⟨hdata, hpast⟩ := pastData_cons.1 hpast
    exact ih (occurrences_of_step? h hchild hdata) hpast hrest

/-! ## One keyword -/

variable {keyword : Keyword}

/-- No keyword that can be installed has the name of data, of the list of branches, or of
references. -/
theorem named_of_fault {engine : Engine} (h : engine.keywordFault? keyword = none) :
    Engine.Named [⟨keyword, none⟩] := by
  have hreserved : ∀ name ∈ dataKeys, Text.trim name ∈ reservedKeywords := by decide
  refine List.forall_mem_singleton.2 ⟨fun hdata => ?_, ?_, ?_⟩
  · exact Engine.name_ne_of_reserved h (hreserved _ hdata) rfl
  · exact Engine.name_ne_of_reserved h (by decide)
  · exact Engine.name_ne_of_reserved h (by decide)

theorem freeOf_single {document : Value} :
    Engine.FreeOf [⟨keyword, none⟩] document ↔ occurrences keyword.name document = [] :=
  List.forall_mem_singleton

/-- A template without the keyword leaves nothing of it in any document. -/
theorem occurrences_expandIn {template : Value} (hnamed : Engine.Named [⟨keyword, none⟩])
    (htemplate : keyword.template = some template) (hexpander : keyword.expander = none)
    (h : occurrences keyword.name template = []) (document : Value) :
    occurrences keyword.name (keyword.expandIn document) = [] := by
  have hexpand : ∀ value, Engine.FreeOf [⟨keyword, none⟩] value →
      Engine.FreeOf [⟨keyword, none⟩] (keyword.expand value) := by
    intro value hvalue
    rw [expand_template htemplate hexpander]
    exact hvalue.substitute hnamed (freeOf_single.2 h)
  have hnone : Engine.FreeOf [] document := List.forall_mem_nil _
  exact freeOf_single.1 (hnone.expandIn hnamed hexpand)

/-- A template with the keyword in it leaves it in the document that has nothing but the keyword. -/
theorem occurrences_template {template : Value} (hnamed : Engine.Named [⟨keyword, none⟩])
    (htemplate : keyword.template = some template) (hexpander : keyword.expander = none)
    (h : occurrences keyword.name (keyword.expandIn (.object [(keyword.name, .null)])) = []) :
    occurrences keyword.name template = [] := by
  have hfree := freeOf_single.2 h
  rw [expandIn_single_self, expand_template htemplate hexpander,
    (Engine.FreeOf.partwise hnamed).allOf hnamed, List.forall_mem_singleton] at hfree
  exact freeOf_single.1 (hfree.of_substitute hnamed)

/-! ## Top theorem -/

/-- For a keyword that can be installed with a template: expansion does away with the keyword in every
document, at every depth, if and only if the template does not have the keyword in it. -/
theorem expandIn_complete_iff {engine extended : Engine} {template : Value}
    (hadded : engine.addKeyword keyword = .ok extended)
    (htemplate : keyword.template = some template) :
    occurrences keyword.name template = [] ↔ ∀ document, keyword.Exhausts document := by
  obtain ⟨hfault, -⟩ := Engine.addKeyword_ok hadded
  have hnamed := named_of_fault hfault
  have hexpander := Engine.expander_eq_none hfault (by rw [htemplate]; rfl)
  have hall : keyword.name ≠ "allOf" := Engine.name_ne_of_reserved hfault (by decide)
  constructor
  · intro hfree document
    have hnone := occurrences_expandIn hnamed htemplate hexpander hfree document
    exact ⟨hnone, lacks_of_occurrences hnone, (expandIn_eq_self_iff hall).2 hnone⟩
  · intro hexhausts
    exact occurrences_template hnamed htemplate hexpander (hexhausts _).collected

/-- A schema that may be missing, within one that may be missing too, is spelled out on both levels,
and nothing is left of the keyword. -/
theorem expandIn_complete_iff_of_nullable :
    ∃ engine, Engine.empty.addKeyword Engine.nullableKeyword = .ok engine ∧
      Engine.nullableKeyword.expandIn
          (.object [("x-nullable", .object [("x-nullable", .object [("minimum", .ofInt 0)])])]) =
        .object [("allOf", .array [.object [("anyOf", .array
          [.object [("allOf", .array [.object [("anyOf", .array
            [.object [("minimum", .ofInt 0)], .object [("type", .string "null")]])]])],
          .object [("type", .string "null")]])]])] ∧
      ∀ document, Engine.nullableKeyword.Exhausts document := by
  obtain ⟨engine, hadded⟩ :
    ∃ engine, Engine.empty.addKeyword Engine.nullableKeyword = .ok engine := ⟨_, rfl⟩
  have hfree : occurrences "x-nullable"
      (.object [("anyOf", .array [.string "$value", .object [("type", .string "null")]])]) = [] := by
    decide
  exact ⟨engine, hadded, by rfl, (expandIn_complete_iff hadded rfl).1 hfree⟩

end Schemata.Keyword
