import Schemata.Proofs.Json.Overlay
import Schemata.Proofs.Registry.Upkeep

/-!
# The identity of documents

Every registered schema was loaded, so that the identity in its document, if there is one, is its
name. Extensions are laid over a document without theirs: the composed document has the identity of
the document that it started from.

    every registered schema was loaded from a handle                            (loaded_run)
    resolveDocument n = .ok d → d has the identity n, or none   (resolveDocument_identified)
-/

namespace Schemata

open Json (Value)

/-- A document is an object whose identity, if it has one, is a given name. -/
def Identified (name : String) (document : Value) : Prop :=
  ∃ members, document = .object members ∧
    ∀ id, Entries.get? members "$id" = some id → id = .string name

/-! ## Loading -/

theorem Schema.nameOf_ok {members : List (String × Value)} {source : Option String} {name : String}
    (h : Schema.nameOf members source = .ok name) {id : Value}
    (hget : Entries.get? members "$id" = some id) : id = .string name := by
  unfold Schema.nameOf at h
  rw [hget] at h
  cases id with
  | string text =>
    dsimp only at h
    split at h
    · cases h
    · cases h; rfl
  | _ => cases h

theorem Handle.load_identified {handle : Handle} {schema : Schema} (h : handle.load = .ok schema) :
    Identified schema.name schema.document := by
  obtain ⟨document, source, hdocument⟩ := Handle.load_ok h
  obtain ⟨members, patchSource, rfl, hname, heq⟩ := Schema.ofDocument_ok hdocument
  refine ⟨members, congrArg Schema.document heq, fun id hget => ?_⟩
  exact Schema.nameOf_ok hname hget

namespace Registry

variable {registry : Registry}

/-- What is registered after a step was registered before, or the step has loaded it. -/
theorem loaded?_perform (h : registry.Tidy) {operation : Operation} {name : String} {schema : Schema}
    (hloaded : (registry.perform operation).loaded? name = some schema) :
    registry.loaded? name = some schema ∨ ∃ handle : Handle, handle.load = .ok schema := by
  cases hupkeep : operation.isUpkeep with
  | true => exact Or.inl ((sameSchemas_perform registry hupkeep).loaded? name ▸ hloaded)
  | false =>
    cases operation with
    | register handle replace =>
      rcases perform_register_cases registry handle replace with
        ⟨entered, after, hload, hinsert, heq⟩ | ⟨-, heq⟩
      · rw [heq, loaded?_insert h hinsert, Handle.load_asLoaded hload] at hloaded
        split at hloaded
        · cases hloaded; exact Or.inr ⟨handle, hload⟩
        · exact Or.inl hloaded
      · rw [heq] at hloaded
        exact Or.inl hloaded
    | deregister removed =>
      have hperform : registry.perform (.deregister removed) = (registry.deregister removed).2 := rfl
      rw [hperform] at hloaded
      cases hget : Entries.get? registry.catalog removed with
      | none =>
        rw [deregister_unregistered hget] at hloaded
        exact Or.inl hloaded
      | some existing =>
        rw [deregister_registered hget, loaded?_remove] at hloaded
        split at hloaded
        · cases hloaded
        · exact Or.inl hloaded
    | beginDiscovery => cases hloaded
    | _ => cases hupkeep

/-- In every history, every registered schema was loaded. -/
theorem loaded_run (h : registry.Tidy) (operations : List Operation) {name : String}
    {schema : Schema} (hloaded : (registry.run operations).loaded? name = some schema) :
    registry.loaded? name = some schema ∨ ∃ handle : Handle, handle.load = .ok schema := by
  induction operations generalizing registry with
  | nil => exact Or.inl hloaded
  | cons operation operations ih =>
    rcases ih (h.perform operation) hloaded with hbefore | hhandle
    · exact loaded?_perform h hbefore
    · exact Or.inr hhandle

/-- In every history of a new registry, every registered schema was loaded from a handle. -/
theorem exists_handle_run (settings : Settings) (directory : String) (operations : List Operation)
    {name : String} {schema : Schema}
    (hloaded : ((new settings directory).run operations).loaded? name = some schema) :
    ∃ handle : Handle, handle.load = .ok schema := by
  rcases loaded_run (tidy_new settings directory) operations hloaded with hnew | hhandle
  · have hnone := (sameSchemas_new settings directory).loaded? name
    rw [hnew] at hnone
    cases hnone
  · exact hhandle

/-- In every history, the documents of registered schemas have no other identity than their names. -/
theorem identified_run (settings : Settings) (directory : String) (operations : List Operation)
    {name : String} {schema : Schema}
    (hget : Entries.get? ((new settings directory).run operations).catalog name = some schema) :
    Identified name schema.document := by
  obtain ⟨handle, hload⟩ := exists_handle_run settings directory operations (loaded?_of_some hget)
  have hidentified := Handle.load_identified hload
  rw [← (tidy_run settings directory operations).name_eq hget]
  exact hidentified

end Registry

/-! ## Composition -/

namespace Catalog

variable {catalog : Catalog}

/-- A composed document is an object with the identity of the document that it started from. -/
theorem composeBelow_ok
    (hobjects : ∀ name schema, Entries.get? catalog name = some schema →
      ∃ members, schema.document = .object members)
    {fuel : Nat} {chain : List String} {schema : Schema} {members : List (String × Value)}
    {document : Value} (hdocument : schema.document = .object members)
    (h : catalog.composeBelow fuel chain schema = .ok document) :
    ∃ composed, document = .object composed ∧
      Entries.get? composed "$id" = Entries.get? members "$id" := by
  induction fuel generalizing chain schema members document with
  | zero => cases h
  | succ fuel ih =>
    unfold composeBelow at h
    split at h
    · cases h
    · refine foldlM_ok (P := fun merged => ∃ composed, merged = .object composed ∧
        Entries.get? composed "$id" = Entries.get? members "$id") ?_ ?_ h
      · rintro merged extension merged' ⟨composed, rfl, hid⟩ hstep
        cases hget : Entries.get? catalog extension with
        | none =>
          rw [hget] at hstep
          cases hstep
          exact ⟨composed, rfl, hid⟩
        | some patch =>
          rw [hget] at hstep
          obtain ⟨below, hbelow, hstep⟩ := bind_eq_ok_iff.1 hstep
          cases hstep
          obtain ⟨members', hmembers'⟩ := hobjects extension patch hget
          obtain ⟨composed', rfl, -⟩ := ih hmembers' hbelow
          refine ⟨Value.overlayMembers composed (Entries.without composed' "$id"), rfl, ?_⟩
          rw [Value.get?_overlayMembers, hid]
          rw [Entries.get?_without, if_pos rfl]
      · refine ⟨Entries.without members "$patch", ?_, ?_⟩
        · unfold Schema.ownDocument
          rw [hdocument]
          rfl
        · rw [Entries.get?_without, if_neg (by decide)]

end Catalog

namespace Registry

/-- In every history, a composed document has no other identity than the name of its schema. -/
theorem resolveDocument_identified (settings : Settings) (directory : String)
    (operations : List Operation) {name : String} {document : Value}
    (h : ((new settings directory).run operations).resolveDocument name = .ok document) :
    Identified name document := by
  have hidentified := @identified_run settings directory operations
  generalize (new settings directory).run operations = registry at h hidentified
  unfold resolveDocument Catalog.composeNamed at h
  cases hget : Entries.get? registry.catalog name with
  | none => rw [hget] at h; cases h
  | some schema =>
    rw [hget] at h
    obtain ⟨members, hmembers, hid⟩ := hidentified hget
    obtain ⟨composed, hcomposed, hkept⟩ := Catalog.composeBelow_ok
      (fun other patch hother => by
        obtain ⟨members', hmembers', -⟩ := hidentified hother
        exact ⟨members', hmembers'⟩)
      hmembers h
    exact ⟨composed, hcomposed, fun id hget' => hid id (hkept ▸ hget')⟩

end Registry

end Schemata
