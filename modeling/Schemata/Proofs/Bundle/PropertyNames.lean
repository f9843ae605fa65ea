import Schemata.Proofs.Bundle.Settled
import Schemata.Proofs.Keyword.PropertyNames

/-!
# Names of properties in a bundle

Bundling looks for references under the key of references, and nowhere below it. It does not tell an
object that is a schema from one that maps the names of properties to their schemas, so that the
schema of a property with that name is passed over: its references are not turned, and nothing is
copied for them. Among all other names it makes no difference how a property is called.

    a property called "$ref" is bundled as it is                                (bundle_property_ref)
    bundling a property under two names ends alike
      ↔ they are one, or none is "$ref", or there is nothing to turn  (property_name_irrelevant_iff)
-/

namespace Schemata.Bundle

open Json (Value)
open Keyword (property)

/-! ## Algorithm -/

/-- Documents that are the same but for the name of their only property. -/
def Renamed (name other : String) (out out' : Value) : Prop :=
  ∃ members schema,
    out = .object (Entries.put members "properties" (.object [(name, schema)])) ∧
    out' = .object (Entries.put members "properties" (.object [(other, schema)]))

/-- It does not matter which of two names a property with a schema has: bundling fails in the same
way, or the results differ in this name only. -/
def NameIrrelevant (rootName : String) (resolver : Resolver) (schema : Value)
    (name other : String) : Prop :=
  EndsAlike (Renamed name other) (bundle rootName (property name schema) resolver)
    (bundle rootName (property other schema) resolver)

def besideProperties (copies : List (String × Value)) : List (String × Value) :=
  if copies.isEmpty then [] else [("$defs", .object (withCopies [] copies))]

variable {rootName : String} {resolver : Resolver} {schema : Value} {name other : String}

/-! ## Properties -/

theorem Renamed.symm {out out' : Value} (h : Renamed name other out out') :
    Renamed other name out' out := by
  obtain ⟨members, schema, hout, hout'⟩ := h
  exact ⟨members, schema, hout', hout⟩

theorem NameIrrelevant.symm (h : NameIrrelevant rootName resolver schema name other) :
    NameIrrelevant rootName resolver schema other name :=
  EndsAlike.symm h fun _ _ => Renamed.symm

theorem visited_property (name : String) (schema : Value) :
    visited (property name schema) = visitedMember name schema := by
  show visitedMembers [("properties", .object [(name, schema)])] = visitedMember name schema
  rw [visitedMembers_cons, visitedMember_of_ne (by decide)]
  show visitedMembers [(name, schema)] ++ [] = visitedMember name schema
  rw [List.append_nil, visitedMembers_cons]
  exact List.append_nil _

theorem rewrite_single (scope : Scope) (key : String) (member : Value) (state : State) :
    rewrite scope (.object [(key, member)]) state =
      (rewriteMember scope key member state).bind fun result =>
        .ok (.object [(key, result.1)], result.2) := by
  unfold rewrite
  rw [rewriteMembers_cons]
  cases rewriteMember scope key member state with
  | error failure => rfl
  | ok result => rfl

theorem rewrite_property (scope : Scope) (name : String) (schema : Value) (state : State) :
    rewrite scope (property name schema) state =
      (rewriteMember scope name schema state).bind fun result =>
        .ok (property name result.1, result.2) := by
  have hproperties : rewriteMember scope "properties" (.object [(name, schema)]) state =
      rewrite scope (.object [(name, schema)]) state := if_neg (by decide)
  unfold property
  rw [rewrite_single, hproperties, rewrite_single]
  cases rewriteMember scope name schema state with
  | error failure => rfl
  | ok result => rfl

theorem addCopies_property (name : String) (schema : Value) (copies : List (String × Value)) :
    addCopies (property name schema) copies =
      .object (Entries.put (besideProperties copies) "properties" (.object [(name, schema)])) := by
  cases copies with
  | nil => rfl
  | cons copy copies => rfl

/-- A property is rewritten as a member, and copies come beside it. -/
theorem bundle_property (rootName : String) (resolver : Resolver) (name : String) (schema : Value) :
    bundle rootName (property name schema) resolver =
      (rewriteMember ⟨rootName, none, resolver⟩ name schema ⟨DefKeys.start [], []⟩).bind
        fun result => (copyQueue rootName resolver (resolver.names.length + 1) result.2).bind
          fun copies => .ok (.object (Entries.put (besideProperties copies) "properties"
            (.object [(name, result.1)]))) := by
  have hsource : bundleSource (property name schema) = property name schema := rfl
  have hkeys : existingKeys (property name schema) = [] := rfl
  rw [bundle_eq_bind, hsource, hkeys, rewrite_property]
  cases rewriteMember ⟨rootName, none, resolver⟩ name schema ⟨DefKeys.start [], []⟩ with
  | error failure => rfl
  | ok result =>
    show (copyQueue _ _ _ result.2).bind _ = (copyQueue _ _ _ result.2).bind _
    refine congrArg _ (funext fun copies => ?_)
    rw [addCopies_property]

/-! ## Names that make no difference -/

/-- Names under which a property is rewritten alike make no difference. -/
theorem nameIrrelevant_of_rewriteMember
    (h : ∀ state, rewriteMember ⟨rootName, none, resolver⟩ name schema state =
      rewriteMember ⟨rootName, none, resolver⟩ other schema state) :
    NameIrrelevant rootName resolver schema name other := by
  unfold NameIrrelevant
  rw [bundle_property, bundle_property, h]
  cases rewriteMember ⟨rootName, none, resolver⟩ other schema ⟨DefKeys.start [], []⟩ with
  | error failure => exact .failed failure
  | ok result =>
    show EndsAlike _ ((copyQueue _ _ _ result.2).bind _) ((copyQueue _ _ _ result.2).bind _)
    cases copyQueue rootName resolver (resolver.names.length + 1) result.2 with
    | error failure => exact .failed failure
    | ok copies => exact .ended ⟨besideProperties copies, result.1, rfl, rfl⟩

theorem nameIrrelevant_of_ne (hname : name ≠ "$ref") (hother : other ≠ "$ref") :
    NameIrrelevant rootName resolver schema name other := by
  refine nameIrrelevant_of_rewriteMember fun state => ?_
  unfold rewriteMember
  rw [if_neg hname, if_neg hother]

/-- With nothing to turn, a property is bundled as it is. -/
theorem bundle_property_of_allLocal (h : AllLocal (visitedMember name schema)) :
    bundle rootName (property name schema) resolver = .ok (property name schema) := by
  have hlocal : SelfContained (property name schema) := by
    unfold SelfContained
    rwa [visited_property]
  have hsettled : Settled (property name schema) := ⟨hlocal, rfl⟩
  exact hsettled.bundle rootName resolver

/-- A property that is called like a reference is bundled as it is, whatever its schema refers to. -/
theorem bundle_property_ref (hschema : schema.asString? = none) :
    bundle rootName (property "$ref" schema) resolver = .ok (property "$ref" schema) := by
  apply bundle_property_of_allLocal
  have hnone : visitedMember "$ref" schema = [] := by
    cases schema with
    | string text => cases hschema
    | _ => rfl
  rw [hnone]
  exact List.forall_mem_nil _

example : bundle "person" (property "$ref" (referenceTo "address")) addressBook =
    .ok (property "$ref" (referenceTo "address")) := rfl

theorem nameIrrelevant_of_allLocal (hname : AllLocal (visitedMember name schema))
    (hother : AllLocal (visitedMember other schema)) :
    NameIrrelevant rootName resolver schema name other := by
  unfold NameIrrelevant
  rw [bundle_property_of_allLocal hname, bundle_property_of_allLocal hother]
  exact .ended ⟨[], schema, rfl, rfl⟩

/-! ## Names that do make one -/

/-- Of a property that is bundled as it is under one name, there is nothing to turn under another
name that makes no difference: bundles are self-contained. -/
theorem NameIrrelevant.allLocal (h : NameIrrelevant rootName resolver schema name other)
    (hname : AllLocal (visitedMember name schema)) : AllLocal (visitedMember other schema) := by
  unfold NameIrrelevant at h
  rw [bundle_property_of_allLocal hname] at h
  cases hout : bundle rootName (property other schema) resolver with
  | error failure =>
    rw [hout] at h
    cases h
  | ok out =>
    rw [hout] at h
    cases h with
    | ended hrenamed =>
      obtain ⟨members, value, heq, rfl⟩ := hrenamed
      have hvalue : schema = value := by
        have hmember := congrArg (fun document => document.member? "properties") heq
        have hproperties : (property name schema).member? "properties" =
            some (.object [(name, schema)]) := rfl
        rw [hproperties] at hmember
        simpa [Value.member?] using hmember
      have hself : SelfContained (.object [(other, value)]) :=
        (bundle_selfContained hout).get? (by decide) (Entries.get?_put_self members _ _)
      rw [hvalue]
      exact selfContained_object.1 hself (other, value) List.mem_cons_self

/-- A schema is met as a reference, or there are references inside of it, but never both. -/
theorem visitedMember_eq_nil_or (hother : other ≠ "$ref") (schema : Value) :
    visitedMember "$ref" schema = [] ∨ visitedMember other schema = [] := by
  cases schema with
  | string text => exact Or.inr (visitedMember_of_ne hother _)
  | _ => exact Or.inl rfl

theorem NameIrrelevant.allLocal_ref (h : NameIrrelevant rootName resolver schema "$ref" other)
    (hother : other ≠ "$ref") :
    AllLocal (visitedMember "$ref" schema) ∧ AllLocal (visitedMember other schema) := by
  rcases visitedMember_eq_nil_or hother schema with hnone | hnone
  · have hlocal : AllLocal (visitedMember "$ref" schema) := hnone ▸ List.forall_mem_nil _
    exact ⟨hlocal, h.allLocal hlocal⟩
  · have hlocal : AllLocal (visitedMember other schema) := hnone ▸ List.forall_mem_nil _
    exact ⟨h.symm.allLocal hlocal, hlocal⟩

theorem nameIrrelevant_iff :
    NameIrrelevant rootName resolver schema name other ↔
      name = other ∨ (name ≠ "$ref" ∧ other ≠ "$ref") ∨
        (AllLocal (visitedMember name schema) ∧ AllLocal (visitedMember other schema)) := by
  constructor
  · intro h
    by_cases hsame : name = other
    · exact Or.inl hsame
    · right
      by_cases hname : name = "$ref"
      · subst hname
        exact Or.inr (h.allLocal_ref (Ne.symm hsame))
      · by_cases hother : other = "$ref"
        · subst hother
          exact Or.inr (h.symm.allLocal_ref hname).symm
        · exact Or.inl ⟨hname, hother⟩
  · rintro (rfl | ⟨hname, hother⟩ | ⟨hname, hother⟩)
    · exact nameIrrelevant_of_rewriteMember fun _ => rfl
    · exact nameIrrelevant_of_ne hname hother
    · exact nameIrrelevant_of_allLocal hname hother

/-! ## Top theorem -/

/-- For a schema, two names of its property make no difference to bundling exactly if none of them is
the key of references, or if under both of them all that is met is local. So the names that are safe
for every schema are all but this one, whatever is registered. -/
theorem property_name_irrelevant_iff (rootName : String) (resolver : Resolver)
    (name other : String) :
    (∀ schema, NameIrrelevant rootName resolver schema name other ↔
      name = other ∨ (name ≠ "$ref" ∧ other ≠ "$ref") ∨
        (AllLocal (visitedMember name schema) ∧ AllLocal (visitedMember other schema))) ∧
    ((∀ members, NameIrrelevant rootName resolver (.object members) name other) ↔
      name = other ∨ (name ≠ "$ref" ∧ other ≠ "$ref")) := by
  refine ⟨fun schema => nameIrrelevant_iff, fun h => ?_, fun h members => ?_⟩
  · -- a schema that is a reference to another one tells the names apart
    have hreference := nameIrrelevant_iff.1 (h [("$ref", .string "address")])
    rcases hreference with hsame | hnames | ⟨hname, hother⟩
    · exact Or.inl hsame
    · exact Or.inr hnames
    · have hmet : ∀ key, key ≠ "$ref" →
          ¬ AllLocal (visitedMember key (.object [("$ref", .string "address")])) := by
        intro key hkey hlocal
        rw [visitedMember_of_ne hkey] at hlocal
        exact absurd (hlocal "address" List.mem_cons_self) (by decide)
      have hfirst : name = "$ref" := Decidable.byContradiction fun hkey => hmet name hkey hname
      have hsecond : other = "$ref" := Decidable.byContradiction fun hkey => hmet other hkey hother
      exact Or.inl (hfirst.trans hsecond.symm)
  · exact nameIrrelevant_iff.2 (h.imp_right Or.inl)

end Schemata.Bundle
