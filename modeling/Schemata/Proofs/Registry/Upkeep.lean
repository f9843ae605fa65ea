import Schemata.Proofs.Registry.Registration

/-!
# Upkeep

The steps that register nothing: formats, keywords, policy and everything that builds. They leave
the schemas and their ties alone, whatever they do to what is kept compiled. With them, every
registry in every history is tidy.

    (registry.perform operation).linked n = registry.linked n       (operation is upkeep)
    (Registry.new settings directory).run operations is tidy                          (tidy_run)
-/

namespace Schemata

/-- Whether a step leaves the schemas alone. -/
def Operation.isUpkeep : Operation → Bool
  | .register _ _ | .deregister _ | .beginDiscovery => false
  | _ => true

namespace Registry

/-- One registry has the schemas of another, tied in the same way; what is kept compiled may
differ. -/
structure SameSchemas (before after : Registry) : Prop where
  ledger : after.ledger = before.ledger
  schemas : ∀ name, (Entries.get? after.catalog name).map Schema.invalidate =
    (Entries.get? before.catalog name).map Schema.invalidate
  ascends : Entries.Ascending before.catalog → Entries.Ascending after.catalog

namespace SameSchemas

variable {before after : Registry}

theorem of_catalog_eq (hcatalog : after.catalog = before.catalog)
    (hledger : after.ledger = before.ledger) : SameSchemas before after :=
  ⟨hledger, fun name => by rw [hcatalog], fun h => hcatalog ▸ h⟩

theorem trans {middle : Registry} (h : SameSchemas before middle) (h' : SameSchemas middle after) :
    SameSchemas before after :=
  ⟨h'.ledger.trans h.ledger, fun name => (h'.schemas name).trans (h.schemas name),
    fun ha => h'.ascends (h.ascends ha)⟩

theorem loaded? (h : SameSchemas before after) (name : String) :
    after.loaded? name = before.loaded? name := by
  have hviews := congrArg (Option.map Schema.asLoaded) (h.schemas name)
  rw [Option.map_map, Option.map_map] at hviews
  exact hviews

theorem linked (h : SameSchemas before after) (name : String) :
    after.linked name = before.linked name := by
  have hschemas := h.schemas name
  unfold Registry.linked
  rw [h.ledger]
  cases hafter : Entries.get? after.catalog name with
  | none =>
    rw [hafter] at hschemas
    rw [Option.map_eq_none_iff.1 hschemas.symm]
  | some schema =>
    rw [hafter] at hschemas
    obtain ⟨schema', hbefore, hsame⟩ := Option.map_eq_some_iff.1 hschemas.symm
    rw [hbefore]
    exact (congrArg Schema.extensions hsame).symm

theorem tidy (h : SameSchemas before after) (htidy : before.Tidy) : after.Tidy :=
  ⟨h.ascends htidy.ascends, fun name schema hs => htidy.named name schema (h.loaded? name ▸ hs),
    fun name schema hs => htidy.outward name schema (h.loaded? name ▸ hs),
    fun name hs => h.ledger ▸ htidy.drained name (h.loaded? name ▸ hs), h.ledger ▸ htidy.ledger⟩

end SameSchemas

variable {registry : Registry}

/-! ## Single steps -/

theorem sameSchemas_registerFormats (registry : Registry) (formats : List (String × String)) :
    SameSchemas registry (registry.registerFormats formats).2 := by
  induction formats generalizing registry with
  | nil => exact .of_catalog_eq rfl rfl
  | cons format formats ih =>
    have hfirst : SameSchemas registry (registry.registerFormat format.1 format.2).2 :=
      .of_catalog_eq rfl rfl
    exact hfirst.trans (ih (registry.registerFormat format.1 format.2).2)

theorem sameSchemas_registerKeyword (registry : Registry) (keyword : Keyword) :
    SameSchemas registry (registry.registerKeyword keyword).2 := by
  unfold registerKeyword
  cases registry.engine.addKeyword keyword <;> exact .of_catalog_eq rfl rfl

theorem sameSchemas_clearCache (registry : Registry) : SameSchemas registry registry.clearCache := by
  refine ⟨rfl, fun name => ?_, fun h => h.mapValues Schema.invalidate⟩
  unfold clearCache
  rw [Entries.get?_mapValues, Option.map_map]
  rfl

theorem sameSchemas_applyPolicy (registry : Registry) (settings : Settings) (directory : String) :
    SameSchemas registry (registry.applyPolicy settings directory) := by
  have hchanged : SameSchemas registry { registry with
      engine := registry.engine.configure settings.policy.validateFormats
      policy := settings.policy
      roots := settings.rootsFrom directory } := .of_catalog_eq rfl rfl
  unfold applyPolicy
  dsimp only
  split
  · exact hchanged
  · exact hchanged.trans (sameSchemas_clearCache _)

theorem sameSchemas_resolve (registry : Registry) (name : String) (options : BuildOptions) :
    SameSchemas registry (registry.after (registry.resolve name options)) := by
  cases h : registry.resolve name options with
  | error failure => exact .of_catalog_eq rfl rfl
  | ok result =>
    obtain ⟨resolved, after⟩ := result
    obtain ⟨schema, built, hget, -, -, rfl⟩ := resolve_ok h
    refine ⟨rfl, fun other => ?_, fun ha => ha.put name _⟩
    dsimp only [after_ok]
    rw [Entries.get?_put]
    split
    · next heq => rw [heq, hget]; rfl
    · rfl

theorem sameSchemas_compile (registry : Registry) (document : Json.Value) :
    SameSchemas registry (registry.after (registry.compile document)) := by
  cases h : registry.compile document with
  | error failure => exact .of_catalog_eq rfl rfl
  | ok result =>
    obtain ⟨prepared, -, h⟩ := bind_eq_ok_iff.1 h
    obtain ⟨compiled, -, h⟩ := bind_eq_ok_iff.1 h
    cases h
    exact .of_catalog_eq rfl rfl

/-- Upkeep leaves the schemas alone. -/
theorem sameSchemas_perform (registry : Registry) {operation : Operation}
    (hupkeep : operation.isUpkeep = true) : SameSchemas registry (registry.perform operation) := by
  cases operation with
  | register handle replace => cases hupkeep
  | deregister name => cases hupkeep
  | beginDiscovery => cases hupkeep
  | registerFormats formats => exact sameSchemas_registerFormats registry formats
  | registerKeyword keyword => exact sameSchemas_registerKeyword registry keyword
  | applyPolicy settings directory => exact sameSchemas_applyPolicy registry settings directory
  | clearCache => exact sameSchemas_clearCache registry
  | resolve name options => exact sameSchemas_resolve registry name options
  | validate name document =>
    show SameSchemas registry (registry.validate name document).2
    rw [validate_snd]
    exact sameSchemas_resolve registry name {}
  | compile document => exact sameSchemas_compile registry document

/-! ## Histories -/

/-- Whether a registration succeeds is whether its handle gives a schema that can be inserted. -/
theorem perform_register_cases (registry : Registry) (handle : Handle) (replace : Bool) :
    (∃ schema after, handle.load = .ok schema ∧ registry.insert schema replace = .ok after ∧
      registry.perform (.register handle replace) = after) ∨
    ((∀ schema after, handle.load = .ok schema → registry.insert schema replace ≠ .ok after) ∧
      registry.perform (.register handle replace) = registry) := by
  show _ ∨ (_ ∧ registry.after (registry.registerLoaded handle.load replace) = registry)
  cases hload : handle.load with
  | error failure => exact Or.inr ⟨fun schema after h => (nomatch h), by rw [registerLoaded]; rfl⟩
  | ok schema =>
    cases hinsert : registry.insert schema replace with
    | ok after =>
      refine Or.inl ⟨schema, after, rfl, hinsert, ?_⟩
      show registry.after (registry.registerLoaded handle.load replace) = after
      rw [hload]
      unfold registerLoaded
      rw [ok_bind, hinsert]
      rfl
    | error failure =>
      refine Or.inr ⟨fun schema' after hs => ?_, ?_⟩
      · cases hs
        rw [hinsert]
        simp
      · unfold registerLoaded
        rw [ok_bind, hinsert]
        rfl

theorem deregister_registered {name : String} {schema : Schema}
    (hget : Entries.get? registry.catalog name = some schema) :
    registry.deregister name = (true, registry.remove schema true) := by
  unfold deregister
  rw [hget]

theorem deregister_unregistered {name : String}
    (hget : Entries.get? registry.catalog name = none) :
    registry.deregister name = (false, registry) := by
  unfold deregister
  rw [hget]

theorem tidy_emptied (registry : Registry) : registry.emptied.Tidy :=
  ⟨Entries.ascending_nil, fun _ _ h => (nomatch h), fun _ _ h => (nomatch h),
    fun _ h => absurd rfl h, Ledger.tidy_empty⟩

theorem Tidy.perform (h : registry.Tidy) (operation : Operation) :
    (registry.perform operation).Tidy := by
  cases hupkeep : operation.isUpkeep with
  | true => exact (sameSchemas_perform registry hupkeep).tidy h
  | false =>
    cases operation with
    | register handle replace =>
      rcases perform_register_cases registry handle replace with
        ⟨schema, after, -, hinsert, heq⟩ | ⟨-, heq⟩
      · rw [heq]; exact h.insert hinsert
      · rw [heq]; exact h
    | deregister name =>
      show (registry.deregister name).2.Tidy
      cases hget : Entries.get? registry.catalog name with
      | none => rw [deregister_unregistered hget]; exact h
      | some schema => rw [deregister_registered hget]; exact h.remove schema true
    | beginDiscovery => exact tidy_emptied registry
    | _ => cases hupkeep

theorem Tidy.run (h : registry.Tidy) (operations : List Operation) :
    (registry.run operations).Tidy := by
  induction operations generalizing registry with
  | nil => exact h
  | cons operation operations ih => exact ih (h.perform operation)

/-- A new registry has no schemas, and nothing waits in it. -/
theorem sameSchemas_new (settings : Settings) (directory : String) :
    SameSchemas (new settings directory).emptied (new settings directory) := by
  let bare : Registry := ⟨[], Ledger.empty, Engine.empty.configure settings.policy.validateFormats,
    settings.policy, settings.rootsFrom directory, 0⟩
  have hbare : SameSchemas (new settings directory).emptied bare := .of_catalog_eq rfl rfl
  exact hbare.trans (sameSchemas_registerFormats bare builtinFormats)

theorem tidy_new (settings : Settings) (directory : String) : (new settings directory).Tidy :=
  (sameSchemas_new settings directory).tidy (tidy_emptied _)

/-- Every registry in every history is tidy. -/
theorem tidy_run (settings : Settings) (directory : String) (operations : List Operation) :
    ((new settings directory).run operations).Tidy :=
  (tidy_new settings directory).run operations

end Registry

end Schemata
