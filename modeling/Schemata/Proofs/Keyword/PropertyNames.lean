import Schemata.Proofs.Preparation

/-!
# Names of properties

Where a keyword is expanded, and where its values are collected, does not depend on what an object
is: a map from names of properties to schemas is walked as if it was a schema. The schema of a
property is taken as it should be unless the property has the name of the keyword, or the name of a
member that holds data and the keyword occurs in the schema. These are the only cases, and in them
the keyword is left as it is, or the property is gone.

    k is expanded in the schema of a property ↔ its values are collected from it
      ↔ the property is not called k, and k does not occur in it if it is called like data
                                                                             (property_respected_iff)
-/

namespace Schemata.Keyword

open Json (Value)

/-! ## Algorithm -/

def property (name : String) (schema : Value) : Value :=
  .object [("properties", .object [(name, schema)])]

/-- Expanding a keyword expands it in the schema of a property, and does nothing else. -/
def ExpandsProperty (keyword : Keyword) (name : String) (schema : Value) : Prop :=
  keyword.expandIn (property name schema) = property name (keyword.expandIn schema)

/-- The values of a keyword are those in the schema of a property. -/
def CollectsProperty (keyword : Keyword) (name : String) (schema : Value) : Prop :=
  occurrences keyword.name (property name schema) = occurrences keyword.name schema

/-! ## Properties -/

variable {keyword : Keyword} {name : String}

/-- With any other name than that of the keyword, a property stays where it is. -/
theorem expandIn_property_of_ne (hproperties : keyword.name ≠ "properties")
    (hname : name ≠ keyword.name) (schema : Value) :
    keyword.expandIn (property name schema) =
      property name (if dataKeys.contains name then schema else keyword.expandIn schema) := by
  unfold property
  rw [expandIn_single_of_ne (Ne.symm hproperties), if_neg (by decide), expandIn_single_of_ne hname]

/-- With the name of the keyword a property is gone. -/
theorem not_expandsProperty_self (hproperties : keyword.name ≠ "properties")
    (hall : keyword.name ≠ "allOf") (schema : Value) :
    ¬ keyword.ExpandsProperty keyword.name schema := by
  intro h
  unfold ExpandsProperty property at h
  rw [expandIn_single_of_ne (Ne.symm hproperties), if_neg (by decide), expandIn, Value.object.injEq,
    List.cons.injEq, Prod.mk.injEq, Value.object.injEq] at h
  have hgone := get?_expandHere_self (expandMembers keyword [(keyword.name, schema)]) hall
  rw [h.1.2] at hgone
  simp [Entries.get?] at hgone

theorem expandsProperty_iff (hproperties : keyword.name ≠ "properties")
    (hall : keyword.name ≠ "allOf") {schema : Value} :
    keyword.ExpandsProperty name schema ↔
      name ≠ keyword.name ∧ (name ∈ dataKeys → occurrences keyword.name schema = []) := by
  by_cases hname : name = keyword.name
  · constructor
    · intro h
      rw [hname] at h
      exact absurd h (not_expandsProperty_self hproperties hall schema)
    · exact fun h => absurd hname h.1
  · unfold ExpandsProperty
    rw [expandIn_property_of_ne hproperties hname, ← expandIn_eq_self_iff hall]
    by_cases hdata : name ∈ dataKeys
    · rw [if_pos (List.contains_iff_mem.2 hdata)]
      simp [property, hname, hdata, eq_comm]
    · rw [if_neg (mt List.contains_iff_mem.1 hdata)]
      simp [hname, hdata]

theorem collectsProperty_iff (hproperties : keyword.name ≠ "properties") {schema : Value} :
    keyword.CollectsProperty name schema ↔
      name ≠ keyword.name ∧ (name ∈ dataKeys → occurrences keyword.name schema = []) := by
  have hinside : occurrences keyword.name (property name schema) =
      if name = keyword.name then [schema]
      else if dataKeys.contains name then [] else occurrences keyword.name schema := by
    unfold property
    rw [occurrences, occurrencesInMembers_cons, if_neg (Ne.symm hproperties), if_neg (by decide),
      occurrences, occurrencesInMembers_cons]
    simp [occurrencesInMembers]
  unfold CollectsProperty
  rw [hinside]
  by_cases hname : name = keyword.name
  · rw [if_pos hname]
    constructor
    · intro h
      have hself : schema ∈ occurrences keyword.name schema := by
        rw [← h]
        exact List.mem_singleton.2 rfl
      exact absurd (sizeOf_occurrence hself) (Nat.lt_irrefl _)
    · exact fun h => absurd hname h.1
  · rw [if_neg hname]
    by_cases hdata : name ∈ dataKeys
    · rw [if_pos (List.contains_iff_mem.2 hdata), eq_comm]
      simp [hname, hdata]
    · rw [if_neg (mt List.contains_iff_mem.1 hdata)]
      simp [hname, hdata]

/-! ## Top theorem -/

/-- For a keyword that can be installed, expansion treats a property as it should exactly if
collection does: if the property is not called like the keyword, and if the keyword does not occur in
its schema in case it is called like data. So the names of properties that are safe, whatever their
schemas, are all others than these, and for no other name they are. -/
theorem property_respected_iff {engine extended : Engine}
    (hadded : engine.addKeyword keyword = .ok extended) (name : String) :
    (∀ schema,
      (keyword.ExpandsProperty name schema ↔
        name ≠ keyword.name ∧ (name ∈ dataKeys → occurrences keyword.name schema = [])) ∧
      (keyword.CollectsProperty name schema ↔
        name ≠ keyword.name ∧ (name ∈ dataKeys → occurrences keyword.name schema = []))) ∧
    ((∀ schema, keyword.ExpandsProperty name schema ∧ keyword.CollectsProperty name schema) ↔
      name ≠ keyword.name ∧ name ∉ dataKeys) := by
  obtain ⟨hfault, -⟩ := Engine.addKeyword_ok hadded
  have hproperties : keyword.name ≠ "properties" := Engine.name_ne_of_reserved hfault (by decide)
  have hall : keyword.name ≠ "allOf" := Engine.name_ne_of_reserved hfault (by decide)
  have hboth : ∀ schema,
      (keyword.ExpandsProperty name schema ↔
        name ≠ keyword.name ∧ (name ∈ dataKeys → occurrences keyword.name schema = [])) ∧
      (keyword.CollectsProperty name schema ↔
        name ≠ keyword.name ∧ (name ∈ dataKeys → occurrences keyword.name schema = [])) :=
    fun schema => ⟨expandsProperty_iff hproperties hall, collectsProperty_iff hproperties⟩
  refine ⟨hboth, fun h => ?_, fun ⟨hname, hdata⟩ schema => ?_⟩
  · -- a schema with nothing but the keyword tells names of data apart
    obtain ⟨hname, hnone⟩ := (hboth (Engine.onlyMember keyword.name)).1.1 (h _).1
    refine ⟨hname, fun hdata => ?_⟩
    have hoccurs := hnone hdata
    simp [Engine.onlyMember, occurrences, occurrencesInMembers] at hoccurs
  · have hfine : name ≠ keyword.name ∧ (name ∈ dataKeys → occurrences keyword.name schema = []) :=
      ⟨hname, fun h => absurd h hdata⟩
    exact ⟨(hboth schema).1.2 hfine, (hboth schema).2.2 hfine⟩

/-- A keyword for even numbers. -/
def evenKeyword : Keyword := ⟨"x-even", none, some (.object [("multipleOf", .ofInt 2)]), none⟩

/-- A property that is called `default` is taken for data: its even number may be odd. -/
theorem property_respected_of_default :
    ∃ engine, Engine.empty.addKeyword evenKeyword = .ok engine ∧
      ¬ evenKeyword.ExpandsProperty "default" (.object [("x-even", .bool true)]) ∧
      ¬ evenKeyword.CollectsProperty "default" (.object [("x-even", .bool true)]) ∧
      evenKeyword.expandIn (property "default" (.object [("x-even", .bool true)])) =
        property "default" (.object [("x-even", .bool true)]) := by
  obtain ⟨engine, hadded⟩ : ∃ engine, Engine.empty.addKeyword evenKeyword = .ok engine := ⟨_, rfl⟩
  have hboth := (property_respected_iff hadded "default").1 (.object [("x-even", .bool true)])
  refine ⟨engine, hadded, fun h => ?_, fun h => ?_, rfl⟩
  · exact absurd ((hboth.1.1 h).2 (by decide)) (by decide)
  · exact absurd ((hboth.2.1 h).2 (by decide)) (by decide)

end Schemata.Keyword
