import Schemata.Proofs.Registry.PatchCycles

/-!
# Locality of changes

The document of a name is composed of the schemas that extension lists lead to from it, and of
nothing else. A step that registers or takes out a schema changes the schema itself, and otherwise
only whether it is in the extension list of another one. So it makes no difference to names from
which extension lists do not lead to the schema, neither before the step nor after it.

    catalogs agree on names that are closed under extension lists → same documents  (composeBelow_congr)
    a step leaves all extension lists alone, the changed name in them aside (filter_linked_perform)
    n does not reach m before and after m is changed → same document of n   (resolveDocument_local)
-/

namespace Schemata

open Json (Value)

/-! ## Algorithm -/

namespace Catalog

/-- Extension lists lead from a name to another one, in any number of steps. -/
def Reaches (catalog : Catalog) : String → String → Prop :=
  Relation.ReflTransGen catalog.Extends

/-- Another catalog has the same schema under a name; what is kept compiled may differ. -/
def AgreesAt (catalog other : Catalog) (name : String) : Prop :=
  (Entries.get? other name).map Schema.invalidate = (Entries.get? catalog name).map Schema.invalidate

/-- The extension lists of some names lead to none but these. -/
def ListsWithin (catalog : Catalog) (names : String → Prop) : Prop :=
  ∀ name schema, names name → Entries.get? catalog name = some schema →
    ∀ extension ∈ schema.extensions, names extension

end Catalog

/-- A step succeeds in registering the schema of a name, or in taking it out. -/
def Registry.Changes (registry : Registry) (name : String) : Operation → Prop
  | .register handle replace => ∃ after, registry.registerLoaded handle.load replace = .ok (name, after)
  | .deregister other => other = name ∧ (registry.deregister other).1 = true
  | _ => False

/-! ## Composition -/

namespace Catalog

variable {catalog other : Catalog} {name : String}

theorem AgreesAt.of_none (h : catalog.AgreesAt other name)
    (hget : Entries.get? catalog name = none) : Entries.get? other name = none := by
  unfold AgreesAt at h
  rw [hget] at h
  exact Option.map_eq_none_iff.1 h

theorem AgreesAt.of_some (h : catalog.AgreesAt other name) {schema : Schema}
    (hget : Entries.get? catalog name = some schema) :
    ∃ schema', Entries.get? other name = some schema' ∧ schema'.invalidate = schema.invalidate := by
  unfold AgreesAt at h
  rw [hget] at h
  exact Option.map_eq_some_iff.1 h

/-- Extension lists do not lead out of names that are closed under them. -/
theorem ListsWithin.of_reaches {names : String → Prop} (h : catalog.ListsWithin names)
    (hname : names name) {reached : String} (hreaches : catalog.Reaches name reached) :
    names reached := by
  induction hreaches with
  | refl => exact hname
  | tail _ hstep ih =>
    obtain ⟨schema, hget, hmem, -⟩ := hstep
    exact h _ schema ih hget _ hmem

/-- Among names that are closed under extension lists, catalogs that agree compose the same. How many
schemas there are does not matter: both have fuel for every path without a repetition. -/
theorem composeBelow_congr {names : String → Prop} (hkeyed : catalog.Keyed)
    (hwithin : catalog.ListsWithin names) (hagree : ∀ name, names name → catalog.AgreesAt other name)
    {fuel fuel' : Nat} {chain : List String} {schema schema' : Schema} (honce : chain.Nodup)
    (hregistered : chain ⊆ Entries.keys catalog) (hregistered' : chain ⊆ Entries.keys other)
    (hfuel : catalog.length < chain.length + fuel) (hfuel' : other.length < chain.length + fuel')
    (hname : names name) (hget : Entries.get? catalog name = some schema)
    (hget' : Entries.get? other name = some schema')
    (hsame : schema'.invalidate = schema.invalidate) :
    other.composeBelow fuel' chain schema' = catalog.composeBelow fuel chain schema := by
  induction fuel generalizing fuel' chain name schema schema' with
  | zero => exact absurd rfl (fuel_ne_zero honce hregistered hfuel)
  | succ fuel ih =>
    obtain ⟨fuel', rfl⟩ := Nat.exists_eq_succ_of_ne_zero (fuel_ne_zero honce hregistered' hfuel')
    have hkey : schema'.name = schema.name := (congrArg Schema.name hsame :)
    have hlist : schema'.extensions = schema.extensions := (congrArg Schema.extensions hsame :)
    have hown : schema'.ownDocument = schema.ownDocument := (congrArg Schema.ownDocument hsame :)
    unfold composeBelow
    rw [hkey, hlist, hown]
    split
    · rfl
    · next hnew =>
      have honce' : (chain ++ [schema.name]).Nodup :=
        List.concat_eq_append ▸ honce.concat fun hmem => hnew (List.contains_iff_mem.2 hmem)
      have hadded : ∀ {keys : List String}, chain ⊆ keys → name ∈ keys →
          chain ++ [schema.name] ⊆ keys := by
        intro keys hchain hmem
        rw [hkeyed name schema hget]
        exact List.append_subset.2 ⟨hchain, by simpa using hmem⟩
      refine foldlM_congr (fun extension hmem merged => ?_) _
      have hextension := hwithin name schema hname hget extension hmem
      cases hpatch : Entries.get? catalog extension with
      | none => rw [(hagree extension hextension).of_none hpatch]
      | some patch =>
        obtain ⟨patch', hpatch', hsame'⟩ := (hagree extension hextension).of_some hpatch
        rw [hpatch']
        dsimp only
        rw [ih honce' (hadded hregistered ((Entries.get?_isSome_iff catalog name).1 (by rw [hget]; rfl)))
          (hadded hregistered' ((Entries.get?_isSome_iff other name).1 (by rw [hget']; rfl)))
          (by simp; omega) (by simp; omega) hextension hpatch hpatch' hsame']

/-- What lies within names that are closed under extension lists, and on which catalogs agree, has
the same document in both. -/
theorem composeNamed_congr {names : String → Prop} (hkeyed : catalog.Keyed)
    (hwithin : catalog.ListsWithin names) (hagree : ∀ name, names name → catalog.AgreesAt other name)
    (hname : names name) : other.composeNamed name = catalog.composeNamed name := by
  unfold composeNamed
  cases hget : Entries.get? catalog name with
  | none => rw [(hagree name hname).of_none hget]
  | some schema =>
    obtain ⟨schema', hget', hsame⟩ := (hagree name hname).of_some hget
    rw [hget']
    exact composeBelow_congr hkeyed hwithin hagree List.nodup_nil (List.nil_subset _)
      (List.nil_subset _) (by simp) (by simp) hname hget hget' hsame

end Catalog

/-! ## Changes -/

namespace Registry

variable {registry : Registry} {log : LinkLog} {operation : Operation} {changed name : String}

/-- A step changes no schema but the one that it changes. -/
theorem loaded?_perform_of_ne (h : registry.Tidy) (hchanges : registry.Changes changed operation)
    (hne : name ≠ changed) : (registry.perform operation).loaded? name = registry.loaded? name := by
  cases operation with
  | register handle replace =>
    obtain ⟨after, hregister⟩ := hchanges
    obtain ⟨schema, hload, rfl, hinsert⟩ := registerLoaded_eq_ok_iff.1 hregister
    show (registry.after (registry.registerLoaded handle.load replace)).loaded? name = _
    rw [hregister, after_ok, loaded?_insert h hinsert, if_neg hne]
  | deregister other =>
    obtain ⟨rfl, hdone⟩ := hchanges
    show (registry.deregister other).2.loaded? name = _
    cases hget : Entries.get? registry.catalog other with
    | none => rw [deregister_unregistered hget]
    | some schema =>
      rw [deregister_registered hget, loaded?_remove, h.name_eq hget, if_neg hne]
  | _ => cases hchanges

/-- A step changes no link but that of the schema that it changes. -/
theorem strike_step (hchanges : registry.Changes changed operation) :
    (LinkLog.step registry log operation).strike changed = log.strike changed := by
  cases operation with
  | register handle replace =>
    obtain ⟨after, hregister⟩ := hchanges
    obtain ⟨schema, hload, rfl, hinsert⟩ := registerLoaded_eq_ok_iff.1 hregister
    dsimp only [LinkLog.step]
    rw [hload]
    dsimp only
    rw [hinsert]
    exact LinkLog.strike_registered log _ schema
  | deregister other =>
    obtain ⟨rfl, hdone⟩ := hchanges
    dsimp only [LinkLog.step]
    rw [if_pos hdone, LinkLog.strike_strike]
  | _ => cases hchanges

/-- A step leaves all extension lists alone, the changed name in them aside. -/
theorem filter_linked_perform (h : LinkLog.Agrees registry log)
    (hchanges : registry.Changes changed operation) (source : String) :
    ((registry.perform operation).linked source).filter (· ≠ changed) =
      (registry.linked source).filter (· ≠ changed) := by
  rw [(h.perform operation).linked, h.linked, ← LinkLog.extensionsOf_strike,
    ← LinkLog.extensionsOf_strike, strike_step hchanges]

/-- An extension list without the changed name, before the step and after it, is the same. -/
theorem linked_perform_of_not_mem (h : LinkLog.Agrees registry log)
    (hchanges : registry.Changes changed operation) {source : String}
    (hbefore : changed ∉ registry.linked source)
    (hafter : changed ∉ (registry.perform operation).linked source) :
    (registry.perform operation).linked source = registry.linked source := by
  have hkept : ∀ {names : List String}, changed ∉ names → names.filter (· ≠ changed) = names := by
    intro names hnot
    refine List.filter_eq_self.2 fun other hother => decide_eq_true ?_
    rintro rfl
    exact hnot hother
  have hsame := filter_linked_perform h hchanges source
  rwa [hkept hbefore, hkept hafter] at hsame

/-- Registries with the same views of a name agree on it. -/
theorem agreesAt_of_views {after : Registry} (hloaded : after.loaded? name = registry.loaded? name)
    (hlinked : after.linked name = registry.linked name) :
    registry.catalog.AgreesAt after.catalog name := by
  unfold Catalog.AgreesAt
  cases hget : Entries.get? registry.catalog name with
  | none =>
    rw [loaded?_eq_none_iff.2 hget, loaded?_eq_none_iff] at hloaded
    rw [hloaded]
  | some schema =>
    rw [loaded?_of_some hget] at hloaded
    obtain ⟨schema', hget', hsame⟩ := Option.map_eq_some_iff.1 hloaded
    rw [linked_of_some hget, linked_of_some hget'] at hlinked
    rw [hget', Option.map_some, Option.map_some]
    cases schema
    cases schema'
    simp_all [Schema.asLoaded, Schema.invalidate]

/-! ## Reaching -/

/-- Names in the extension list of a registered name are registered, so that they are reached. -/
theorem extends_of_mem_linked (h : LinkLog.Agrees registry log) {source extension : String}
    (hregistered : registry.loaded? source ≠ none) (hmem : extension ∈ registry.linked source) :
    registry.catalog.Extends source extension := by
  obtain ⟨schema, hget⟩ := Option.ne_none_iff_exists'.1 (mt loaded?_eq_none_iff.2 hregistered)
  refine ⟨schema, hget, linked_of_some hget ▸ hmem, ?_⟩
  exact Option.isSome_iff_ne_none.2 (mt loaded?_eq_none_iff.2 (h.registered_of_linked hmem).2)

theorem listsWithin_reaches (h : LinkLog.Agrees registry log) (name : String) :
    registry.catalog.ListsWithin (registry.catalog.Reaches name) := by
  intro source schema hreached hget extension hmem
  refine hreached.tail (extends_of_mem_linked h ?_ (linked_of_some hget ▸ hmem))
  rw [loaded?_of_some hget]
  exact Option.some_ne_none _

/-- A name that does not reach the changed one, neither before the step nor after it, has the same
schema with the same extensions. -/
theorem agreesAt_of_not_reaches (h : LinkLog.Agrees registry log)
    (hchanges : registry.Changes changed operation)
    (hbefore : ¬ registry.catalog.Reaches name changed)
    (hafter : ¬ (registry.perform operation).catalog.Reaches name changed) :
    registry.catalog.AgreesAt (registry.perform operation).catalog name := by
  have hne : name ≠ changed := by
    rintro rfl
    exact hbefore .refl
  have hloaded := loaded?_perform_of_ne h.tidy hchanges hne
  cases hget : registry.loaded? name with
  | none =>
    rw [hget] at hloaded
    unfold Catalog.AgreesAt
    rw [loaded?_eq_none_iff.1 hget, loaded?_eq_none_iff.1 hloaded]
  | some schema =>
    have hregistered : registry.loaded? name ≠ none := by
      rw [hget]
      exact Option.some_ne_none schema
    refine agreesAt_of_views hloaded (linked_perform_of_not_mem h hchanges ?_ ?_)
    · exact fun hmem => hbefore (.single (extends_of_mem_linked h hregistered hmem))
    · exact fun hmem =>
        hafter (.single (extends_of_mem_linked (h.perform operation) (hloaded ▸ hregistered) hmem))

/-- From a name that does not reach the changed one, extension lists lead at least to the same names
after the step as before it. -/
theorem reaches_perform (h : LinkLog.Agrees registry log)
    (hchanges : registry.Changes changed operation)
    (hbefore : ¬ registry.catalog.Reaches name changed)
    (hafter : ¬ (registry.perform operation).catalog.Reaches name changed) {other : String}
    (hreaches : registry.catalog.Reaches name other) :
    (registry.perform operation).catalog.Reaches name other := by
  induction hreaches with
  | refl => exact .refl
  | @tail middle other hfirst hstep ih =>
    have hagrees : registry.catalog.AgreesAt (registry.perform operation).catalog middle :=
      agreesAt_of_not_reaches h hchanges (fun hreaches => hbefore (hfirst.trans hreaches))
        fun hreaches => hafter (ih.trans hreaches)
    obtain ⟨schema, hget, hmem, hregistered⟩ := hstep
    obtain ⟨schema', hget', hsame⟩ := hagrees.of_some hget
    have hlist : schema'.extensions = schema.extensions := (congrArg Schema.extensions hsame :)
    refine ih.tail (extends_of_mem_linked (h.perform operation) ?_ ?_)
    · rw [loaded?_of_some hget']
      exact Option.some_ne_none _
    · rw [linked_of_some hget', hlist]
      exact hmem

/-! ## Top theorem -/

/-- In every history, let a step register the schema of a name, as a new one or in place of another, or
take it out. Then another name, from which extension lists do not lead to the changed one, neither
before the step nor after it, has the same document after the step as before it, or fails to have
one with the same chain of names. -/
theorem resolveDocument_local (settings : Settings) (directory : String)
    (history : List Operation) (operation : Operation) (changed name : String) :
    let before := (new settings directory).run history
    let after := before.perform operation
    before.Changes changed operation → ¬ before.catalog.Reaches name changed →
      ¬ after.catalog.Reaches name changed →
        after.resolveDocument name = before.resolveDocument name := by
  intro before after hchanges hbefore hafter
  have h := LinkLog.agrees_ofHistory settings directory history
  refine Catalog.composeNamed_congr h.tidy.keyed (listsWithin_reaches h name)
    (fun other hreaches => ?_) .refl
  have hreaches' := reaches_perform h hchanges hbefore hafter hreaches
  exact agreesAt_of_not_reaches h hchanges (fun hmeets => hbefore (hreaches.trans hmeets))
    fun hmeets => hafter (hreaches'.trans hmeets)

/-- An extension of one schema comes to extend another one. Two schemas that patch each other fail
with the same cycle as before. -/
theorem resolveDocument_local_of_pair :
    let before := (new {} "").run
      [.register (.document (extensionDocument "a" "b")) false,
        .register (.document (extensionDocument "b" "a")) false,
        .register (.document (.object [("$id", .string "course")])) false,
        .register (.document (extensionDocument "notes" "course")) false]
    let after := before.perform (.register (.document (extensionDocument "notes" "book")) true)
    before.linked "course" = ["notes"] ∧ after.linked "course" = [] ∧
      before.resolveDocument "a" = .error (.circularExtension ["a", "b", "a"]) ∧
      after.resolveDocument "a" = before.resolveDocument "a" := by
  intro before after
  have hapart : ∀ registry : Registry,
      (∀ source ∈ ["a", "b"], ∀ extension ∈ registry.linked source, extension ∈ ["a", "b"]) →
        ¬ registry.catalog.Reaches "a" "notes" := by
    intro registry hlists hreaches
    have hwithin : registry.catalog.ListsWithin (· ∈ ["a", "b"]) :=
      fun source schema hsource hget extension hmem =>
        hlists source hsource extension (linked_of_some hget ▸ hmem)
    exact absurd (hwithin.of_reaches (by decide) hreaches) (by decide)
  refine ⟨by decide +kernel, by decide +kernel, rfl, ?_⟩
  exact resolveDocument_local {} "" _ _ "notes" "a" ⟨after, rfl⟩
    (hapart before (by decide +kernel)) (hapart after (by decide +kernel))

end Registry

end Schemata
