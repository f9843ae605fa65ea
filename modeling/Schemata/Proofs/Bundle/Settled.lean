import Schemata.Proofs.Bundle.Data

/-!
# Settled documents

A document is settled if no reference in it names a schema and it has no identity. There is nothing
in it for bundling to do: the settled documents are those that bundling leaves as they are, under
every name and whatever is registered. A bundle is settled, so that it needs no registry any more.

    bundle n d r = .ok d ↔ d is settled                                      (bundle_eq_self_iff)
    bundle n d r = .ok out → out is settled                                      (bundle_settled)
    bundle n d r = .ok out → bundle n' out r' = .ok out                            (bundle_again)
-/

namespace Schemata.Bundle

open Json (Value)

/-! ## Algorithm -/

/-- There is nothing in a document for bundling to do. -/
structure Settled (document : Value) : Prop where
  selfContained : SelfContained document
  nameless : document.member? "$id" = none

/-- A registry without schemas. -/
def nothingRegistered : Resolver := ⟨[], fun name => .error (.schemaNotFound name)⟩

/-! ## Lemmas -/

variable {rootName : String} {resolver : Resolver} {document out : Value}

/-- Without an identity, all of a document is bundled. -/
theorem bundleSource_of_nameless (h : document.member? "$id" = none) :
    bundleSource document = document := by
  cases document with
  | object members => exact congrArg Value.object (Entries.without_of_get?_eq_none h)
  | _ => rfl

theorem addCopies_nil (document : Value) : addCopies document [] = document := by
  cases document with
  | object members => rfl
  | _ => rfl

/-- A settled document is bundled as it is. -/
theorem Settled.bundle (h : Settled document) (rootName : String) (resolver : Resolver) :
    bundle rootName document resolver = .ok document := by
  have hunturned : Unturned none document := unturned_none_iff.2 h.selfContained
  have hrewrite : ∀ state, rewrite ⟨rootName, none, resolver⟩ document state =
      .ok (document, state) := fun state => rewrite_unturned hunturned state
  rw [bundle_eq_bind, bundleSource_of_nameless h.nameless, hrewrite]
  -- nothing was asked for, and so there is nothing to copy
  show Except.ok (addCopies document []) = Except.ok document
  rw [addCopies_nil]

/-- The identity of a document is not in its bundle, and no copy brings one in. -/
theorem bundle_nameless (h : bundle rootName document resolver = .ok out) :
    out.member? "$id" = none := by
  obtain ⟨key, copies, -, rfl⟩ := bundle_ok_document h
  rw [member?_addCopies_of_ne _ (by decide), member?_mapReferences, member?_bundleSource,
    if_pos rfl]
  rfl

/-- Every bundle is settled. -/
theorem bundle_settled (h : bundle rootName document resolver = .ok out) : Settled out :=
  ⟨bundle_selfContained h, bundle_nameless h⟩

/-- Settled documents are those that bundling leaves as they are. -/
theorem bundle_eq_self_iff :
    bundle rootName document resolver = .ok document ↔ Settled document :=
  ⟨bundle_settled, fun h => h.bundle rootName resolver⟩

/-! ## Top theorem -/

/-- A bundle is bundled as it is, under every name and whatever is registered, if anything. -/
theorem bundle_again (h : bundle rootName document resolver = .ok out) (other : String)
    (registered : Resolver) : bundle other out registered = .ok out := by
  have hsettled : Settled out := bundle_settled h
  exact bundle_eq_self_iff.2 hsettled

/-- The bundle of a person needs no address book. -/
theorem bundle_again_of_person :
    ∃ out, bundle "person" personDocument addressBook = .ok out ∧ out ≠ personDocument ∧
      bundle "house" out nothingRegistered = .ok out := by
  obtain ⟨out, hout⟩ : ∃ out, bundle "person" personDocument addressBook = .ok out := ⟨_, rfl⟩
  refine ⟨out, hout, ?_, bundle_again hout "house" nothingRegistered⟩
  rintro rfl
  exact absurd (bundle_selfContained hout) (by decide)

end Schemata.Bundle
