import Schemata.Proofs.Registry.Upkeep

/-!
# What is kept compiled

A compiled schema is kept with the fingerprint of what it was compiled from, and stays when its
bases, its references or the engine change. It is handed out again only if what would be compiled
now has the same fingerprint. As long as different things have different fingerprints nobody can
tell a kept compiled schema from one that is compiled anew, save by its number.

    kept ⇒ compiled from a fingerprinted document, and compiled so again (Remembers, remembers_run)
    resolve n, cached = resolve n, not cached                             (cache_transparent)
-/

namespace Schemata

open Json (Value)

/-- What a fingerprint is made from: a generation and a prepared document. -/
abbrev Stamped := Nat × Value

def Stamped.fingerprint (stamped : Stamped) : Fingerprint :=
  Fingerprint.ofCompilation stamped.1 stamped.2

/-- Different documents of a list have different fingerprints. -/
def CollisionFree (hashed : List Stamped) : Prop :=
  ∀ a ∈ hashed, ∀ b ∈ hashed, a.fingerprint = b.fingerprint → a = b

instance (hashed : List Stamped) : Decidable (CollisionFree hashed) :=
  inferInstanceAs (Decidable (∀ a ∈ hashed, ∀ b ∈ hashed, a.fingerprint = b.fingerprint → a = b))

/-- What a build gives, without the number of the compilation. -/
def Resolved.unnumbered : Resolved → Resolved
  | .compiled schema => .compiled { schema with serial := 0 }
  | .document composed => .document composed

/-- The name of the registered schema that a step has compiled, if it does. -/
def Operation.compiles? : Operation → Option String
  | .resolve name options => if options.compiled then some name else none
  | .validate name _ => some name
  | _ => none

namespace Registry

/-! ## Algorithm -/

def prepared (registry : Registry) (name : String) : Except Failure Value :=
  match Entries.get? registry.catalog name with
  | some schema => schema.prepareIn registry.catalog registry.engine
  | none => .error (.schemaNotFound name)

/-- What is fingerprinted in a step. -/
def hashedBy (registry : Registry) (operation : Operation) : List Stamped :=
  match operation.compiles?.map registry.prepared with
  | some (.ok prepared) => [(registry.engine.generation, prepared)]
  | _ => []

/-- What is fingerprinted in some steps. -/
def hashedIn (registry : Registry) : List Operation → List Stamped
  | [] => []
  | operation :: operations =>
    registry.hashedBy operation ++ (registry.perform operation).hashedIn operations

/-- Every kept compiled schema was compiled from a fingerprinted document. If the engine has not
changed since then, it would be compiled in the same way again. -/
structure Remembers (registry : Registry) (hashed : List Stamped) : Prop where
  tidy : registry.Tidy
  kept : ∀ name memo, registry.memo? name = some memo →
    ∃ stamped ∈ hashed, memo.key = stamped.fingerprint ∧
      stamped.1 ≤ registry.engine.generation ∧
      (stamped.1 = registry.engine.generation →
        registry.engine.compile memo.compiled.serial name stamped.2 = .ok memo.compiled)

/-! ## Lemmas -/

variable {registry : Registry}

theorem hashedIn_concat (registry : Registry) (operations : List Operation)
    (operation : Operation) :
    registry.hashedIn (operations ++ [operation]) =
      registry.hashedIn operations ++ (registry.run operations).hashedBy operation := by
  induction operations generalizing registry with
  | nil => exact List.append_nil _
  | cons first operations ih =>
    show registry.hashedBy first ++ (registry.perform first).hashedIn (operations ++ [operation]) = _
    rw [ih, ← List.append_assoc]
    rfl

theorem prepared_registered {name : String} {schema : Schema}
    (hget : Entries.get? registry.catalog name = some schema) :
    registry.prepared name = schema.prepareIn registry.catalog registry.engine := by
  unfold prepared
  rw [hget]

theorem prepared_unregistered {name : String} (hget : Entries.get? registry.catalog name = none) :
    registry.prepared name = .error (.schemaNotFound name) := by
  unfold prepared
  rw [hget]

/-- Nothing new is kept, and the engine stays as it is or gets a later generation. -/
structure Forgets (before after : Registry) : Prop where
  engine : after.engine = before.engine ∨ before.engine.generation < after.engine.generation
  memo? : ∀ name memo, after.memo? name = some memo → before.memo? name = some memo

namespace Forgets

variable {before after : Registry}

theorem of_catalog_eq (hcatalog : after.catalog = before.catalog)
    (hengine : after.engine = before.engine ∨ before.engine.generation < after.engine.generation) :
    Forgets before after := by
  refine ⟨hengine, fun name memo h => ?_⟩
  unfold Registry.memo? at h ⊢
  rwa [hcatalog] at h

theorem trans {middle : Registry} (h : Forgets before middle) (h' : Forgets middle after) :
    Forgets before after := by
  refine ⟨?_, fun name memo hmemo => h.memo? name memo (h'.memo? name memo hmemo)⟩
  rcases h.engine with heq | hlt <;> rcases h'.engine with heq' | hlt'
  · exact Or.inl (heq'.trans heq)
  · exact Or.inr (heq ▸ hlt')
  · exact Or.inr (heq' ▸ hlt)
  · exact Or.inr (Nat.lt_trans hlt hlt')

end Forgets

/-! ## Steps that compile nothing that is kept -/

theorem forgets_registerFormats (registry : Registry) (formats : List (String × String)) :
    Forgets registry (registry.registerFormats formats).2 := by
  induction formats generalizing registry with
  | nil => exact .of_catalog_eq rfl (Or.inl rfl)
  | cons format formats ih =>
    have hfirst : Forgets registry (registry.registerFormat format.1 format.2).2 :=
      .of_catalog_eq rfl (Or.inr (Nat.lt_succ_self _))
    exact hfirst.trans (ih (registry.registerFormat format.1 format.2).2)

theorem forgets_registerKeyword (registry : Registry) (keyword : Keyword) :
    Forgets registry (registry.registerKeyword keyword).2 := by
  unfold registerKeyword
  cases h : registry.engine.addKeyword keyword with
  | error fault => exact .of_catalog_eq rfl (Or.inl rfl)
  | ok engine =>
    refine .of_catalog_eq rfl (Or.inr ?_)
    unfold Engine.addKeyword at h
    split at h
    · cases h
    · obtain ⟨validator, -, h⟩ := bind_eq_ok_iff.1 h
      cases h
      exact Nat.lt_succ_self _

theorem forgets_clearCache (registry : Registry) : Forgets registry registry.clearCache := by
  refine ⟨Or.inl rfl, fun name memo h => ?_⟩
  unfold Registry.memo? clearCache at h
  rw [Entries.get?_mapValues] at h
  cases hget : Entries.get? registry.catalog name <;> rw [hget] at h <;> cases h

theorem forgets_applyPolicy (registry : Registry) (settings : Settings) (directory : String) :
    Forgets registry (registry.applyPolicy settings directory) := by
  have hchanged : Forgets registry { registry with
      engine := registry.engine.configure settings.policy.validateFormats
      policy := settings.policy
      roots := settings.rootsFrom directory } := by
    refine .of_catalog_eq rfl ?_
    dsimp only
    unfold Engine.configure
    split
    · exact Or.inl rfl
    · exact Or.inr (Nat.lt_succ_self _)
  unfold applyPolicy
  dsimp only
  split
  · exact hchanged
  · exact hchanged.trans (forgets_clearCache _)

theorem forgets_compile (registry : Registry) (document : Value) :
    Forgets registry (registry.after (registry.compile document)) := by
  cases h : registry.compile document with
  | error failure => exact .of_catalog_eq rfl (Or.inl rfl)
  | ok result =>
    obtain ⟨prepared, -, h⟩ := bind_eq_ok_iff.1 h
    obtain ⟨compiled, -, h⟩ := bind_eq_ok_iff.1 h
    cases h
    exact .of_catalog_eq rfl (Or.inl rfl)

/-- Only resolutions and validations keep what they compile. -/
theorem forgets_perform (registry : Registry) {operation : Operation}
    (hresolve : ∀ name options, operation ≠ .resolve name options)
    (hvalidate : ∀ name document, operation ≠ .validate name document) :
    Forgets registry (registry.perform operation) := by
  cases operation with
  | register handle replace =>
    rcases perform_register_cases registry handle replace with
      ⟨schema, after, hload, hinsert, heq⟩ | ⟨-, heq⟩
    · rw [heq]
      exact ⟨Or.inl (engine_insert hinsert), fun name memo =>
        memo?_insert (Handle.load_bare hload).2 hinsert⟩
    · rw [heq]
      exact .of_catalog_eq rfl (Or.inl rfl)
  | deregister name =>
    show Forgets registry (registry.deregister name).2
    cases hget : Entries.get? registry.catalog name with
    | none =>
      rw [deregister_unregistered hget]
      exact .of_catalog_eq rfl (Or.inl rfl)
    | some schema =>
      rw [deregister_registered hget]
      exact ⟨Or.inl (engine_remove schema true), fun name memo => memo?_remove⟩
  | beginDiscovery => exact ⟨Or.inl rfl, fun name memo h => (nomatch h)⟩
  | registerFormats formats => exact forgets_registerFormats registry formats
  | registerKeyword keyword => exact forgets_registerKeyword registry keyword
  | applyPolicy settings directory => exact forgets_applyPolicy registry settings directory
  | clearCache => exact forgets_clearCache registry
  | resolve name options => exact absurd rfl (hresolve name options)
  | validate name document => exact absurd rfl (hvalidate name document)
  | compile document => exact forgets_compile registry document

/-! ## The invariant -/

variable {hashed : List Stamped}

theorem Remembers.mono (h : Remembers registry hashed) {more : List Stamped}
    (hsub : hashed ⊆ more) : Remembers registry more := by
  refine ⟨h.tidy, fun name memo hmemo => ?_⟩
  obtain ⟨stamped, hmem, hkept⟩ := h.kept name memo hmemo
  exact ⟨stamped, hsub hmem, hkept⟩

theorem Remembers.forget (h : Remembers registry hashed) {after : Registry} (htidy : after.Tidy)
    (hforgets : Forgets registry after) : Remembers after hashed := by
  refine ⟨htidy, fun name memo hmemo => ?_⟩
  obtain ⟨stamped, hmem, hkey, hle, hcompile⟩ := h.kept name memo (hforgets.memo? name memo hmemo)
  refine ⟨stamped, hmem, hkey, ?_, fun heq => ?_⟩
  · rcases hforgets.engine with hsame | hlt
    · rw [hsame]; exact hle
    · omega
  · rcases hforgets.engine with hsame | hlt
    · rw [hsame] at heq ⊢
      exact hcompile heq
    · omega

theorem hashedBy_resolve {name : String} {options : BuildOptions} {prepared : Value}
    (hcompiled : options.compiled = true) (hprepared : registry.prepared name = .ok prepared) :
    registry.hashedBy (.resolve name options) = [(registry.engine.generation, prepared)] := by
  unfold hashedBy
  simp [Operation.compiles?, hcompiled, hprepared]

/-- A resolution keeps nothing new, or it keeps what it compiled from the prepared document. -/
theorem resolve_keeps (htidy : registry.Tidy) {name : String} {options : BuildOptions}
    {resolved : Resolved} {after : Registry}
    (h : registry.resolve name options = .ok (resolved, after)) :
    Forgets registry after ∨
      (options.compiled = true ∧ after.engine = registry.engine ∧
        ∃ prepared compiled, registry.prepared name = .ok prepared ∧
          registry.engine.compile compiled.serial name prepared = .ok compiled ∧
          ∀ other, after.memo? other =
            if other = name then some ⟨Schema.keyOf registry.engine prepared, compiled⟩
            else registry.memo? other) := by
  obtain ⟨schema, built, hget, hbuild, -, rfl⟩ := resolve_ok h
  have hname := htidy.name_eq hget
  have hold : registry.memo? name = schema.memo := by unfold memo?; rw [hget]; rfl
  have hmemo : ∀ other, memo? { registry with
      catalog := Entries.put registry.catalog name { schema with memo := built.memo }
      nextSerial := built.nextSerial } other =
        if other = name then built.memo else registry.memo? other := by
    intro other
    unfold memo?
    dsimp only
    rw [Entries.get?_put]
    split <;> rfl
  by_cases hsame : built.memo = schema.memo
  · refine Or.inl ⟨Or.inl rfl, fun other memo hother => ?_⟩
    rw [hmemo] at hother
    split at hother
    · next heq => rw [heq, hold, ← hsame, hother]
    · exact hother
  · right
    rcases Schema.build_ok_cases hbuild with ⟨-, hbuilt, -⟩ |
      ⟨hcompiled, prepared, compiled, hprepared, -, ⟨-, -, hbuilt⟩ | ⟨hcompile, hbuilt⟩⟩
    · exact absurd hbuilt hsame
    · exact absurd hbuilt hsame
    · split at hbuilt
      · refine ⟨hcompiled, rfl, prepared, compiled, (prepared_registered hget).trans hprepared, ?_,
          fun other => by rw [hmemo, hbuilt]⟩
        rw [hname] at hcompile
        obtain ⟨draft, hdraft, rfl⟩ := Engine.compile_ok_iff.1 hcompile
        exact hcompile
      · exact absurd hbuilt hsame

/-- What a resolution keeps was fingerprinted by it, or earlier. -/
theorem Remembers.resolve (h : Remembers registry hashed) (name : String) (options : BuildOptions) :
    Remembers (registry.perform (.resolve name options))
      (hashed ++ registry.hashedBy (.resolve name options)) := by
  have htidy := h.tidy.perform (.resolve name options)
  have hmore := h.mono (List.subset_append_left hashed (registry.hashedBy (.resolve name options)))
  have hperform : registry.perform (.resolve name options) =
    registry.after (registry.resolve name options) := rfl
  cases hresolve : registry.resolve name options with
  | error failure =>
    rw [hperform, hresolve]
    exact hmore
  | ok result =>
    obtain ⟨resolved, after⟩ := result
    rw [hperform, hresolve, after_ok] at htidy ⊢
    rcases resolve_keeps h.tidy hresolve with
      hforgets | ⟨hcompiled, hengine, prepared, compiled, hprepared, hcompile, hmemo⟩
    · exact hmore.forget htidy hforgets
    · refine ⟨htidy, fun other memo hother => ?_⟩
      rw [hmemo] at hother
      rw [hengine]
      split at hother
      · next heq =>
        cases hother
        refine ⟨(registry.engine.generation, prepared), ?_, rfl, Nat.le_refl _, fun _ => ?_⟩
        · rw [hashedBy_resolve hcompiled hprepared]
          exact List.mem_append_right hashed List.mem_cons_self
        · rw [heq]
          exact hcompile
      · exact hmore.kept other memo hother

theorem Remembers.perform (h : Remembers registry hashed) (operation : Operation) :
    Remembers (registry.perform operation) (hashed ++ registry.hashedBy operation) := by
  cases operation with
  | resolve name options => exact h.resolve name options
  | validate name document =>
    have hperform : registry.perform (.validate name document) =
      registry.perform (.resolve name {}) := validate_snd registry name document
    rw [hperform]
    exact h.resolve name {}
  | _ =>
    exact (h.forget (h.tidy.perform _) (forgets_perform registry (by simp) (by simp))).mono
      (List.subset_append_left _ _)

theorem Remembers.run (h : Remembers registry hashed) (operations : List Operation) :
    Remembers (registry.run operations) (hashed ++ registry.hashedIn operations) := by
  induction operations generalizing registry hashed with
  | nil => rw [hashedIn, List.append_nil]; exact h
  | cons operation operations ih =>
    rw [hashedIn, ← List.append_assoc]
    exact ih (h.perform operation)

/-- In every history, what is kept was compiled from a fingerprinted document. -/
theorem remembers_run (settings : Settings) (directory : String) (operations : List Operation) :
    Remembers ((new settings directory).run operations)
      ((new settings directory).hashedIn operations) := by
  have hnew : Remembers (new settings directory) [] := by
    refine ⟨tidy_new settings directory, fun name memo hmemo => ?_⟩
    have hempty := (sameSchemas_new settings directory).loaded? name
    have hget : Entries.get? (new settings directory).catalog name = none :=
      loaded?_eq_none_iff.1 hempty
    unfold memo? at hmemo
    rw [hget] at hmemo
    cases hmemo
  exact hnew.run operations

/-! ## What a resolution gives -/

theorem compile_unnumbered (engine : Engine) (serial : Nat) (name : String) (prepared : Value) :
    (engine.compile serial name prepared).map (Resolved.unnumbered ∘ .compiled) =
      (engine.compile 0 name prepared).map .compiled := by
  unfold Engine.compile
  split <;> rfl

/-- A kept compiled schema that has the fingerprint of a document is what this is compiled to. -/
theorem Remembers.cached (h : Remembers registry hashed) {name : String} {schema : Schema}
    (hget : Entries.get? registry.catalog name = some schema) {prepared : Value}
    (hfree : CollisionFree (hashed ++ [(registry.engine.generation, prepared)]))
    {compiled : Compiled}
    (hcached : schema.cached? (Schema.keyOf registry.engine prepared) = some compiled) :
    registry.engine.compile compiled.serial name prepared = .ok compiled := by
  obtain ⟨memo, hmemo, rfl⟩ := Option.map_eq_some_iff.1 hcached
  obtain ⟨hmemo, hkey⟩ := Option.filter_eq_some_iff.1 hmemo
  have hkept : registry.memo? name = some memo := by unfold memo?; rw [hget]; exact hmemo
  obtain ⟨stamped, hmem, hstamped, -, hcompile⟩ := h.kept name memo hkept
  -- the document that it was compiled from has the same fingerprint, and so is the same
  have hsame : stamped = (registry.engine.generation, prepared) :=
    hfree stamped (List.mem_append_left _ hmem) _ (List.mem_append_right _ List.mem_cons_self)
      (hstamped.symm.trans (of_decide_eq_true hkey))
  rw [hsame] at hcompile
  exact hcompile rfl

/-- With a cache or without, a resolution gives what the prepared document is compiled to. -/
theorem Remembers.resolve_unnumbered (h : Remembers registry hashed) (name : String)
    (hfree : CollisionFree (hashed ++ registry.hashedBy (.resolve name {}))) (cache : Bool) :
    (registry.resolve name ⟨true, cache⟩).map (·.1.unnumbered) =
      (registry.prepared name).bind fun prepared =>
        (registry.engine.compile 0 name prepared).map .compiled := by
  cases hget : Entries.get? registry.catalog name with
  | none => rw [resolve_unregistered hget, prepared_unregistered hget]; rfl
  | some schema =>
    have hname := h.tidy.name_eq hget
    rw [resolve_registered hget, Schema.build_compiled rfl, prepared_registered hget, hname]
    cases hprepared : schema.prepareIn registry.catalog registry.engine with
    | error failure => rfl
    | ok prepared =>
      rw [hashedBy_resolve rfl ((prepared_registered hget).trans hprepared)] at hfree
      have hanew := compile_unnumbered registry.engine registry.nextSerial name prepared
      simp only [Except.bind]
      split
      · next compiled hcached =>
        split at hcached
        · have hcompile := h.cached hget hfree hcached
          rw [← compile_unnumbered registry.engine compiled.serial, hcompile]
          rfl
        · cases hcached
      · rw [← hanew]
        cases registry.engine.compile registry.nextSerial name prepared <;> rfl

/-! ## Top theorem -/

/-- After every history, resolving a name with the cache or without it gives the same failure, or
compiled schemas that only their numbers tell apart: the name, compiled from its prepared document
under the formats and the settings of the engine. All that this takes is that the documents
fingerprinted in the history have different fingerprints, and generations are numbers without an
upper bound. -/
theorem cache_transparent (settings : Settings) (directory : String) (operations : List Operation)
    (name : String)
    (hfree : CollisionFree
      ((new settings directory).hashedIn (operations ++ [.resolve name {}]))) :
    let registry := (new settings directory).run operations
    ((registry.resolve name {}).map (·.1.unnumbered) =
      (registry.resolve name { cache := false }).map (·.1.unnumbered)) ∧
    ∀ cache resolved after, registry.resolve name ⟨true, cache⟩ = .ok (resolved, after) →
      ∃ compiled, resolved = .compiled compiled ∧ compiled.name = name ∧
        registry.prepared name = .ok compiled.document ∧
        compiled.validator.formats = registry.engine.formats ∧
        compiled.validator.assertsFormats = registry.engine.assertsFormats := by
  intro registry
  have hremembers : Remembers registry _ := remembers_run settings directory operations
  rw [hashedIn_concat] at hfree
  change CollisionFree (_ ++ registry.hashedBy _) at hfree
  have houtcome := hremembers.resolve_unnumbered name hfree
  refine ⟨(houtcome true).trans (houtcome false).symm, fun cache resolved after hresolve => ?_⟩
  have hcache := houtcome cache
  rw [hresolve] at hcache
  obtain ⟨compiled, rfl⟩ := resolve_compiled rfl hresolve
  obtain ⟨prepared, hprepared, hcompile⟩ := bind_eq_ok_iff.1 hcache.symm
  cases hanew : registry.engine.compile 0 name prepared with
  | error failure => rw [hanew] at hcompile; cases hcompile
  | ok anew =>
    rw [hanew] at hcompile
    obtain ⟨draft, -, rfl⟩ := Engine.compile_ok_iff.1 hanew
    obtain ⟨serial, name', validator⟩ := compiled
    cases hcompile
    exact ⟨_, rfl, rfl, hprepared, rfl, rfl⟩

/-- A schema is compiled, a format is installed, and the schema is resolved again. -/
theorem cache_transparent_of_format :
    let registry := (new {} "").run
      [.register (.document (.object [("$id", .string "course")])) false, .resolve "course" {},
        .registerFormats [("room", "^[0-9]+$")]]
    (registry.resolve "course" {}).map (·.1.unnumbered) =
      (registry.resolve "course" { cache := false }).map (·.1.unnumbered) :=
  (cache_transparent {} "" [.register (.document (.object [("$id", .string "course")])) false,
    .resolve "course" {}, .registerFormats [("room", "^[0-9]+$")]] "course" (by decide +kernel)).1

end Registry

end Schemata
