import Mathlib.Data.List.Chain
import Mathlib.Data.List.Nodup
import Schemata.Composition
import Schemata.Proofs.Outcomes

/-!
# How composition ends

Composition walks along extension lists, and the chain of names is the path that it has come. It
fails where the path meets itself, and nowhere else: on every path without a repetition there are
fewer names than schemas, so that the fuel lasts.

    composeBelow fuel chain schema = .error e → e is a path that meets itself      (composeBelow_error)
    composeBelow fuel chain schema = .ok d → no path from schema on meets itself   (composeBelow_ok_nodup)
-/

namespace Schemata.Catalog

open Json (Value)

/-! ## Algorithm -/

/-- Schemas are kept under their names. -/
def Keyed (catalog : Catalog) : Prop :=
  ∀ name schema, Entries.get? catalog name = some schema → schema.name = name

/-- A registered name that stands among the extensions of another registered one. -/
def Extends (catalog : Catalog) (source extension : String) : Prop :=
  ∃ schema, Entries.get? catalog source = some schema ∧ extension ∈ schema.extensions ∧
    (Entries.get? catalog extension).isSome

/-- A path that ends where it has been before, and nowhere meets itself before that. -/
structure Closes (path : List String) : Prop where
  once : path.dropLast.Nodup
  returns : ∀ last, path.getLast? = some last → last ∈ path.dropLast

variable {catalog : Catalog}

/-! ## Single steps -/

/-- A failure comes from a name that is met again, or from an extension. -/
theorem composeBelow_succ_error {fuel : Nat} {chain : List String} {schema : Schema}
    {failure : Failure} (h : catalog.composeBelow (fuel + 1) chain schema = .error failure) :
    (schema.name ∈ chain ∧ failure = .circularExtension (chain ++ [schema.name])) ∨
      (schema.name ∉ chain ∧ ∃ extension ∈ schema.extensions, ∃ patch,
        Entries.get? catalog extension = some patch ∧
          catalog.composeBelow fuel (chain ++ [schema.name]) patch = .error failure) := by
  unfold composeBelow at h
  split at h
  · next hmet =>
    cases h
    exact Or.inl ⟨List.contains_iff_mem.1 hmet, rfl⟩
  · next hnew =>
    refine Or.inr ⟨fun hmem => hnew (List.contains_iff_mem.2 hmem), ?_⟩
    obtain ⟨extension, hmem, merged, hstep⟩ := foldlM_error h
    cases hget : Entries.get? catalog extension with
    | none => rw [hget] at hstep; cases hstep
    | some patch =>
      refine ⟨extension, hmem, patch, hget, ?_⟩
      rw [hget] at hstep
      dsimp only at hstep
      cases hbelow : catalog.composeBelow fuel (chain ++ [schema.name]) patch with
      | error other => rw [hbelow] at hstep; cases hstep; rfl
      | ok document => rw [hbelow] at hstep; cases hstep

/-- A composition that ends well meets a new name, and composes every registered extension. -/
theorem composeBelow_ok_cases {fuel : Nat} {chain : List String} {schema : Schema}
    {document : Value} (h : catalog.composeBelow fuel chain schema = .ok document) :
    schema.name ∉ chain ∧ ∃ below, fuel = below + 1 ∧
      ∀ extension ∈ schema.extensions, ∀ patch, Entries.get? catalog extension = some patch →
        ∃ inner, catalog.composeBelow below (chain ++ [schema.name]) patch = .ok inner := by
  cases fuel with
  | zero => cases h
  | succ fuel =>
    unfold composeBelow at h
    split at h
    · cases h
    · next hnew =>
      refine ⟨fun hmem => hnew (List.contains_iff_mem.2 hmem), fuel, rfl, ?_⟩
      intro extension hmem patch hget
      obtain ⟨merged, merged', hstep⟩ := foldlM_ok_of_mem h hmem
      rw [hget] at hstep
      obtain ⟨inner, hinner, -⟩ := bind_eq_ok_iff.1 hstep
      exact ⟨inner, hinner⟩

/-! ## Paths -/

/-- The names of a path without a repetition are fewer than the fuel and the path together. -/
theorem fuel_ne_zero {fuel : Nat} {chain : List String} (honce : chain.Nodup)
    (hregistered : chain ⊆ Entries.keys catalog) (hfuel : catalog.length < chain.length + fuel) :
    fuel ≠ 0 := by
  have hlength := honce.length_le_of_subset hregistered
  rw [Entries.keys, List.length_map] at hlength
  omega

/-- A composition that fails has found a path along extension lists that meets itself. -/
theorem composeBelow_error (hkeyed : catalog.Keyed) {fuel : Nat} {chain : List String}
    {schema : Schema} {failure : Failure} (honce : chain.Nodup)
    (hregistered : chain ⊆ Entries.keys catalog) (hfuel : catalog.length < chain.length + fuel)
    (hget : Entries.get? catalog schema.name = some schema)
    (h : catalog.composeBelow fuel chain schema = .error failure) :
    ∃ ahead, failure = .circularExtension (chain ++ schema.name :: ahead) ∧
      (schema.name :: ahead).IsChain catalog.Extends ∧ Closes (chain ++ schema.name :: ahead) := by
  induction fuel generalizing chain schema with
  | zero => exact absurd rfl (fuel_ne_zero honce hregistered hfuel)
  | succ fuel ih =>
    rcases composeBelow_succ_error h with ⟨hmet, rfl⟩ | ⟨hnew, extension, hmem, patch, hpatch, hbelow⟩
    · refine ⟨[], rfl, .singleton _, ⟨by simpa using honce, fun last hlast => ?_⟩⟩
      rw [List.getLast?_concat] at hlast
      cases hlast
      simpa using hmet
    · have hname : patch.name = extension := hkeyed extension patch hpatch
      subst hname
      have hkey : schema.name ∈ Entries.keys catalog := by
        rw [← Entries.get?_isSome_iff, hget]
        rfl
      have honce' : (chain ++ [schema.name]).Nodup :=
        List.concat_eq_append ▸ List.Nodup.concat hnew honce
      have hfuel' : catalog.length < (chain ++ [schema.name]).length + fuel := by
        rw [List.length_append, List.length_singleton]
        omega
      obtain ⟨ahead, hfailure, hchain, hcloses⟩ := ih honce'
        (List.append_subset.2 ⟨hregistered, by simpa using hkey⟩) hfuel' hpatch hbelow
      rw [List.append_assoc, List.singleton_append] at hfailure hcloses
      refine ⟨patch.name :: ahead, hfailure, ?_, hcloses⟩
      exact List.isChain_cons_cons.2 ⟨⟨schema, hget, hmem, by rw [hpatch]; rfl⟩, hchain⟩

/-- A composition that ends well has been along every path from its schema on, and none of them
meets itself. -/
theorem composeBelow_ok_nodup (hkeyed : catalog.Keyed) {ahead : List String} {fuel : Nat}
    {chain : List String} {schema : Schema} {document : Value} (honce : chain.Nodup)
    (hget : Entries.get? catalog schema.name = some schema)
    (h : catalog.composeBelow fuel chain schema = .ok document)
    (hpath : (schema.name :: ahead).IsChain catalog.Extends) :
    (chain ++ schema.name :: ahead).Nodup := by
  induction ahead generalizing fuel chain schema document with
  | nil =>
    obtain ⟨hnew, -⟩ := composeBelow_ok_cases h
    exact List.concat_eq_append ▸ List.Nodup.concat hnew honce
  | cons extension ahead ih =>
    obtain ⟨hnew, below, -, hbelow⟩ := composeBelow_ok_cases h
    obtain ⟨⟨source, hsource, hmem, hregistered⟩, hrest⟩ := List.isChain_cons_cons.1 hpath
    rw [hget] at hsource
    cases hsource
    obtain ⟨patch, hpatch⟩ := Option.isSome_iff_exists.1 hregistered
    obtain ⟨inner, hinner⟩ := hbelow extension hmem patch hpatch
    have hname : patch.name = extension := hkeyed extension patch hpatch
    subst hname
    have hpath' := ih (List.concat_eq_append ▸ List.Nodup.concat hnew honce) hpatch hinner hrest
    rwa [List.append_assoc, List.singleton_append] at hpath'

end Schemata.Catalog
