import Schemata.Registry
import Schemata.Proofs.Registry.Resolution

/-!
# Histories of a registry

What can be done to a registry, as steps that nothing else can interrupt, and the registries that
such steps lead to. Discovery is not one step: it empties the registry, and later registers the
files that it found one by one, so that other steps may come in between. Without such steps the
history of a discovery is the discovery.

    (registry.discover files host).1 =
      registry.run (.beginDiscovery :: (registry.filesFound files host).map (.registerFound files))
                                                                        (discover_eq_run)
-/

namespace Schemata

open Json (Value)
open Files (FileSystem)

/-! ## Algorithm -/

/-- What a schema is registered from. -/
inductive Handle where
  /-- A document. -/
  | document (document : Value)
  /-- A file, by its path. -/
  | file (files : FileSystem) (path : String)
  /-- A file that discovery found. -/
  | found (files : FileSystem) (path : String)

def Handle.load : Handle → Except Failure Schema
  | .document content => Schema.ofDocument content none
  | .file files path =>
    if path.isEmpty then .error (.invalidParam "path") else Discovery.load files path
  | .found files path => Discovery.load files path

/-- A step in the life of a registry. -/
inductive Operation where
  /-- Registers the schema of a handle. -/
  | register (handle : Handle) (replace : Bool)
  /-- Takes a schema out. -/
  | deregister (name : String)
  /-- Empties the registry, before files are looked for. -/
  | beginDiscovery
  /-- Installs formats, or a single one. -/
  | registerFormats (formats : List (String × String))
  /-- Installs a keyword. -/
  | registerKeyword (keyword : Keyword)
  /-- Takes over policy and roots. -/
  | applyPolicy (settings : Settings) (directory : String)
  /-- Forgets what was compiled. -/
  | clearCache
  /-- Builds a schema. -/
  | resolve (name : String) (options : BuildOptions)
  /-- Holds a document against a schema. -/
  | validate (name : String) (document : Value)
  /-- Compiles a document that need not be registered. -/
  | compile (document : Value)

def Operation.registerFound (files : FileSystem) (path : String) : Operation :=
  .register (.found files path) false

namespace Registry

/-- The registry after an operation, which is as before if the operation fails. -/
def after {α : Type} (registry : Registry) (result : Except Failure (α × Registry)) : Registry :=
  match result with
  | .ok (_, after) => after
  | .error _ => registry

/-- The registry after a step. -/
def perform (registry : Registry) : Operation → Registry
  | .register handle replace => registry.after (registry.registerLoaded handle.load replace)
  | .deregister name => (registry.deregister name).2
  | .beginDiscovery => registry.emptied
  | .registerFormats formats => (registry.registerFormats formats).2
  | .registerKeyword keyword => (registry.registerKeyword keyword).2
  | .applyPolicy settings directory => registry.applyPolicy settings directory
  | .clearCache => registry.clearCache
  | .resolve name options => registry.after (registry.resolve name options)
  | .validate name document => (registry.validate name document).2
  | .compile document => registry.after (registry.compile document)

/-- The registry after some steps. -/
def run (registry : Registry) (operations : List Operation) : Registry :=
  operations.foldl perform registry

def filesFound (registry : Registry) (files : FileSystem) (host : List String) : List String :=
  (registry.allRoots host).flatMap fun root => (Discovery.scan files root).toOption.getD []

/-! ## Lemmas -/

@[simp] theorem after_ok {α : Type} (registry after : Registry) (value : α) :
    registry.after (.ok (value, after)) = after := rfl

@[simp] theorem run_nil (registry : Registry) : registry.run [] = registry := rfl

@[simp] theorem run_cons (registry : Registry) (operation : Operation)
    (operations : List Operation) :
    registry.run (operation :: operations) = (registry.perform operation).run operations := rfl

theorem run_append (registry : Registry) (first second : List Operation) :
    registry.run (first ++ second) = (registry.run first).run second :=
  List.foldl_append

theorem admitLoaded_fst (state : Registry × Discovery.Report) (files : FileSystem)
    (path : String) :
    (admitLoaded state path (Discovery.load files path)).1 =
      state.1.perform (.registerFound files path) := by
  obtain ⟨registry, report⟩ := state
  show _ = registry.after (registry.registerLoaded (Discovery.load files path) false)
  dsimp only [admitLoaded]
  cases registry.registerLoaded (Discovery.load files path) false <;> rfl

/-- Resolving a registered schema is building it, and keeping what the build leaves. -/
theorem resolve_registered {registry : Registry} {name : String} {schema : Schema}
    (hget : Entries.get? registry.catalog name = some schema) (options : BuildOptions) :
    registry.resolve name options =
      (schema.build registry.catalog registry.engine registry.nextSerial
        { options with cache := options.cache && registry.policy.cacheCompiled }).map fun built =>
          (built.resolved, { registry with
            catalog := Entries.put registry.catalog name { schema with memo := built.memo }
            nextSerial := built.nextSerial }) := by
  unfold resolve
  rw [hget]
  dsimp only
  cases schema.build registry.catalog registry.engine registry.nextSerial
    { options with cache := options.cache && registry.policy.cacheCompiled } <;> rfl

theorem resolve_unregistered {registry : Registry} {name : String}
    (hget : Entries.get? registry.catalog name = none) (options : BuildOptions) :
    registry.resolve name options = .error (.schemaNotFound name) := by
  unfold resolve
  rw [hget]

/-- What a resolution builds and keeps, if it ends well. -/
theorem resolve_ok {registry after : Registry} {name : String} {options : BuildOptions}
    {resolved : Resolved} (h : registry.resolve name options = .ok (resolved, after)) :
    ∃ schema built, Entries.get? registry.catalog name = some schema ∧
      schema.build registry.catalog registry.engine registry.nextSerial
        { options with cache := options.cache && registry.policy.cacheCompiled } = .ok built ∧
      resolved = built.resolved ∧
      after = { registry with
        catalog := Entries.put registry.catalog name { schema with memo := built.memo }
        nextSerial := built.nextSerial } := by
  cases hget : Entries.get? registry.catalog name with
  | none => rw [resolve_unregistered hget] at h; cases h
  | some schema =>
    rw [resolve_registered hget] at h
    cases hbuild : schema.build registry.catalog registry.engine registry.nextSerial
        { options with cache := options.cache && registry.policy.cacheCompiled } with
    | error failure => rw [hbuild] at h; cases h
    | ok built =>
      rw [hbuild] at h
      cases h
      exact ⟨schema, built, rfl, hbuild, rfl, rfl⟩

/-- A compiled schema is what a resolution gives unless the document is asked for. -/
theorem resolve_compiled {registry after : Registry} {name : String} {options : BuildOptions}
    {resolved : Resolved} (hcompiled : options.compiled = true)
    (h : registry.resolve name options = .ok (resolved, after)) :
    ∃ compiled, resolved = .compiled compiled := by
  obtain ⟨schema, built, -, hbuild, rfl, -⟩ := resolve_ok h
  rcases Schema.build_ok_cases hbuild with ⟨hraw, -⟩ | ⟨-, -, compiled, -, hresolved, -⟩
  · rw [hcompiled] at hraw; cases hraw
  · exact ⟨compiled, hresolved⟩

/-- A validation leaves the registry as the resolution does that it starts with. -/
theorem validate_snd (registry : Registry) (name : String) (document : Value) :
    (registry.validate name document).2 = registry.perform (.resolve name {}) := by
  show _ = registry.after (registry.resolve name {})
  unfold validate resolveCompiled
  cases h : registry.resolve name {} with
  | error failure => rfl
  | ok result =>
    obtain ⟨resolved, after⟩ := result
    obtain ⟨compiled, rfl⟩ := resolve_compiled rfl h
    rfl

/-- A policy that is taken over with formats is a history of two steps. -/
theorem applySettings_eq_run (registry : Registry) (settings : Settings) (directory : String) :
    registry.applySettings settings directory =
      registry.run [.applyPolicy settings directory, .registerFormats settings.formats] := rfl

/-- A discovery is the history in which its steps follow each other. -/
theorem discover_eq_run (registry : Registry) (files : FileSystem) (host : List String) :
    (registry.discover files host).1 =
      registry.run
        (.beginDiscovery :: (registry.filesFound files host).map (.registerFound files)) := by
  have fold : ∀ (paths : List String) (state : Registry × Discovery.Report),
      (paths.foldl (fun state path => admitLoaded state path (Discovery.load files path)) state).1 =
        state.1.run (paths.map (.registerFound files)) := by
    intro paths
    induction paths with
    | nil => intro state; rfl
    | cons path paths ih =>
      intro state
      rw [List.foldl_cons, ih, admitLoaded_fst, List.map_cons, run_cons]
  unfold discover
  rw [fold, run_cons]
  have found : ((registry.allRoots host).map fun root => (root, Discovery.scan files root)).flatMap
      (fun pair => pair.2.toOption.getD []) = registry.filesFound files host := by
    rw [filesFound, List.flatMap_map]
  show (registry.emptied).run _ = _
  rw [← found]
  rfl

/-- A start is a discovery, perhaps after settings were taken over. -/
theorem start_eq_run (registry : Registry) (files : FileSystem) (host : List String)
    (settings : Option Settings) :
    ∃ operations, (registry.start files host settings).1 = registry.run operations := by
  cases settings with
  | none => exact ⟨_, discover_eq_run registry files host⟩
  | some settings =>
    have h := discover_eq_run (registry.applySettings settings files.current) files host
    rw [applySettings_eq_run, ← run_append] at h
    exact ⟨_, h⟩

end Registry

end Schemata
