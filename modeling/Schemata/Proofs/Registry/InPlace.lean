import Schemata.Proofs.Registry.Upkeep

/-!
# Operations in place

The operations as they change a registry in place, one change after the other. A procedure that
fails takes nothing back: what it did before it failed stays done. The functions of the registry give
no registry when they fail, and so they say that nothing has to be taken back. Here this is proved:
done in place, an operation comes to the same, and one that fails fails before its first change.

    operation.carryOut.on registry = registry.outcome operation               (carryOut_eq_outcome)
    operation.carryOut.on registry fails → the registry after it is the one before it
                                                                         (failure_leaves_no_trace)
-/

namespace Schemata

open Json (Value)
open Schemata.Format (GuardedFormat)

/-! ## Algorithm -/

/-- Something that is done to a registry in place. A failure takes nothing back. -/
abbrev Procedure (α : Type) := ExceptT Failure (StateM Registry) α

namespace Procedure

def on {α : Type} (procedure : Procedure α) (registry : Registry) : Except Failure α × Registry :=
  (procedure.run.run registry).run

/-- Goes on with what an attempt gives, or fails as it does. -/
def attempt {α : Type} (result : Except Failure α) : Procedure α :=
  match result with
  | .ok value => pure value
  | .error failure => throw failure

/-! ### Registration -/

/-- Ties an extension to the schema that it extends, or lets it wait for that schema. -/
def linkExtension (source extension : String) : Procedure Unit := do
  match Entries.get? (← get).catalog source with
  | some base =>
    modify fun registry =>
      { registry with catalog := Entries.put registry.catalog source (base.addExtension extension) }
  | none => modify fun registry => { registry with ledger := registry.ledger.defer source extension }

/-- Takes an extension away from the schema that it extends, and then from among those that wait. -/
def unlinkExtension (source extension : String) : Procedure Unit := do
  modify fun registry => { registry with
    catalog := Entries.modify registry.catalog source fun base => base.removeExtension extension }
  modify fun registry => { registry with ledger := (registry.ledger.withdraw source extension).2 }

def addWaiting (name extension : String) : Procedure Unit :=
  modify fun registry => { registry with
    catalog := Entries.modify registry.catalog name fun schema => schema.addExtension extension }

/-- Lets an extension wait for a name if it is registered itself. -/
def park (name extension : String) : Procedure Unit := do
  if Entries.hasKey (← get).catalog extension then
    modify fun registry => { registry with ledger := registry.ledger.defer name extension }
  else pure ()

/-- Puts a schema into the catalog, and adds the extensions that wait for it one by one. -/
def place (schema : Schema) : Procedure Unit := do
  modify fun registry =>
    { registry with catalog := Entries.put registry.catalog schema.name schema }
  let pending := ((← get).ledger.drain schema.name).1
  modify fun registry => { registry with ledger := (registry.ledger.drain schema.name).2 }
  forM pending (addWaiting schema.name)

/-- Puts a schema into the catalog, and ties it to the schema that it is to be tied to. -/
def takeIn (schema : Schema) (linkTo : Option String) : Procedure String := do
  place schema
  linkTo.forM fun source => linkExtension source schema.name
  return schema.name

/-- Takes the schema of a name out of the catalog, takes it away from the schema that it extends if
so wanted, and lets its registered extensions wait one by one. -/
def remove (name : String) (detach : Bool) : Procedure (Option Schema) := do
  match Entries.get? (← get).catalog name with
  | none => return none
  | some schema =>
    modify fun registry => { registry with catalog := Entries.without registry.catalog name }
    (if detach then schema.patchSource else none).forM fun source => unlinkExtension source name
    forM schema.extensions (park name)
    return some schema

/-- Registers a schema; with `replace` one of the same name is removed before. -/
def insert (schema : Schema) (replace : Bool) : Procedure String := do
  if schema.patchSource = some schema.name then
    throw (.circularExtension [schema.name, schema.name])
  else
    match Entries.get? (← get).catalog schema.name with
    | none => takeIn schema schema.patchSource
    | some existing =>
      if ¬ replace then throw (.schemaExists schema.name existing.source)
      else
        let keepsPlace := existing.patchSource = schema.patchSource
        let _ ← remove schema.name (!keepsPlace)
        if keepsPlace then takeIn schema none else takeIn schema schema.patchSource

def register (handle : Handle) (replace : Bool) : Procedure String := do
  let schema ← attempt handle.load
  insert schema replace

/-- Takes a schema out of the registry, and says whether it was there. -/
def deregister (name : String) : Procedure Bool := do
  match ← remove name true with
  | some _ => return true
  | none => return false

/-! ### Formats, keywords and settings -/

def registerFormats (formats : List (String × String)) : Procedure (List GuardedFormat) :=
  formats.mapM fun (name, pattern) => do
    let format := Format.guard name pattern
    modify fun registry => { registry with engine := registry.engine.addFormat format }
    return format

def addKeyword (keyword : Keyword) : Procedure Unit := do
  match (← get).engine.keywordFault? keyword with
  | some fault => throw fault
  | none =>
    let validator ← attempt (Engine.valueValidator keyword)
    modify fun registry => { registry with engine := { registry.engine with
      keywords := registry.engine.keywords ++ [⟨keyword, validator⟩] } }
    modify fun registry => { registry with engine := { registry.engine with
      generation := registry.engine.generation + 1 } }

def registerKeyword (keyword : Keyword) : Procedure Bool :=
  tryCatch (do addKeyword keyword; return true) fun _ => return false

/-- Takes over policy and roots. Without a cache nothing that was compiled stays. -/
def applyPolicy (settings : Settings) (directory : String) : Procedure Unit := do
  modify fun registry => { registry with
    engine := registry.engine.configure settings.policy.validateFormats }
  modify fun registry => { registry with policy := settings.policy }
  modify fun registry => { registry with roots := settings.rootsFrom directory }
  if ¬ settings.policy.cacheCompiled then modify Registry.clearCache

/-! ### Resolution -/

def keep (name : String) (schema : Schema) (memo : Memo) (cache : Bool) : Procedure Unit :=
  if cache then
    modify fun registry => { registry with
      catalog := Entries.put registry.catalog name { schema with memo := some memo } }
  else pure ()

/-- Compiles a prepared document of a registered schema, and keeps what this gives. -/
def compileAnew (name : String) (schema : Schema) (key : Fingerprint) (prepared : Value)
    (cache : Bool) : Procedure Resolved := do
  let registry ← get
  let compiled ← attempt (registry.engine.compile registry.nextSerial schema.name prepared)
  modify fun registry => { registry with nextSerial := registry.nextSerial + 1 }
  keep name schema ⟨key, compiled⟩ cache
  return .compiled compiled

def build (name : String) (schema : Schema) (options : BuildOptions) : Procedure Resolved := do
  let registry ← get
  let composed ← attempt (registry.catalog.compose schema)
  if ¬ options.compiled then return .document composed
  else
    let prepared ← attempt
      (registry.engine.prepare schema.name composed registry.catalog.resolver)
    let key := Fingerprint.ofCompilation registry.engine.generation prepared
    match if options.cache then schema.cached? key else none with
    | some compiled => return .compiled compiled
    | none => compileAnew name schema key prepared options.cache

def resolve (name : String) (options : BuildOptions) : Procedure Resolved := do
  let registry ← get
  match Entries.get? registry.catalog name with
  | none => throw (.schemaNotFound name)
  | some schema =>
    build name schema { options with cache := options.cache && registry.policy.cacheCompiled }

/-- Holds a document against a registered schema. -/
def validate (name : String) (document : Value) : Procedure Unit := do
  match ← resolve name {} with
  | .compiled compiled => attempt (compiled.validate document)
  | .document _ => throw (.compile name "no compiled schema was built")

def compile (document : Value) : Procedure Compiled := do
  let registry ← get
  let name := ((document.member? "$id").bind Value.asString?).getD ""
  let prepared ← attempt (registry.engine.prepare name document registry.catalog.resolver)
  let compiled ← attempt (registry.engine.compile registry.nextSerial name prepared)
  modify fun registry => { registry with nextSerial := registry.nextSerial + 1 }
  return compiled

end Procedure

/-- What an operation answers. -/
inductive Answer where
  /-- The name of what was registered. -/
  | registered (name : String)
  /-- Whether it was done. -/
  | done (did : Bool)
  /-- The formats that were installed. -/
  | formats (formats : List GuardedFormat)
  /-- What a schema was resolved to. -/
  | resolved (resolved : Resolved)
  /-- What a document was compiled to. -/
  | compiled (compiled : Compiled)

namespace Operation

/-- An operation in place. -/
def carryOut : Operation → Procedure Answer
  | .register handle replace => return .registered (← Procedure.register handle replace)
  | .deregister name => return .done (← Procedure.deregister name)
  | .beginDiscovery => do
    modify fun registry => { registry with catalog := [] }
    modify fun registry => { registry with ledger := Ledger.empty }
    return .done true
  | .registerFormats formats => return .formats (← Procedure.registerFormats formats)
  | .registerKeyword keyword => return .done (← Procedure.registerKeyword keyword)
  | .applyPolicy settings directory => do
    Procedure.applyPolicy settings directory
    return .done true
  | .clearCache => do
    modify Registry.clearCache
    return .done true
  | .resolve name options => return .resolved (← Procedure.resolve name options)
  | .validate name document => do
    Procedure.validate name document
    return .done true
  | .compile document => return .compiled (← Procedure.compile document)

/-- Whether an operation reports failure by what it gives. A document that does not satisfy its
schema is a result of its validation. -/
def reportsFailure : Operation → Except Failure Answer → Bool
  | .validate _ _, .error (.invalid _) => false
  | _, .error _ => true
  | _, .ok (.done did) => !did
  | _, .ok _ => false

end Operation

namespace Registry

/-- What an operation comes to whose function gives nothing but a failure when it fails. -/
def settle {α β : Type} (registry : Registry) (result : Except Failure (α × Registry)) (answer : α → β) :
    Except Failure β × Registry :=
  match result with
  | .ok (value, after) => (.ok (answer value), after)
  | .error failure => (.error failure, registry)

/-- What an operation comes to by the functions of the registry. -/
def outcome (registry : Registry) : Operation → Except Failure Answer × Registry
  | .register handle replace =>
    registry.settle (registry.registerLoaded handle.load replace) .registered
  | .deregister name => ((registry.deregister name).map (.ok ∘ .done) id)
  | .beginDiscovery => (.ok (.done true), registry.emptied)
  | .registerFormats formats => (registry.registerFormats formats).map (.ok ∘ .formats) id
  | .registerKeyword keyword => (registry.registerKeyword keyword).map (.ok ∘ .done) id
  | .applyPolicy settings directory => (.ok (.done true), registry.applyPolicy settings directory)
  | .clearCache => (.ok (.done true), registry.clearCache)
  | .resolve name options => registry.settle (registry.resolve name options) .resolved
  | .validate name document =>
    (registry.validate name document).map (fun result => result.map fun _ => .done true) id
  | .compile document => registry.settle (registry.compile document) .compiled

end Registry

/-! ## Lemmas -/

namespace Procedure

variable {α β : Type} {registry : Registry}

@[simp] theorem on_pure (value : α) : (pure value : Procedure α).on registry = (.ok value, registry) :=
  rfl

@[simp] theorem on_get : (get : Procedure Registry).on registry = (.ok registry, registry) := rfl

@[simp] theorem on_modify (change : Registry → Registry) :
    (modify change : Procedure Unit).on registry = (.ok (), change registry) := rfl

/-- A procedure goes on where another one ends well, and ends where that one fails. -/
@[simp] theorem on_bind (procedure : Procedure α) (next : α → Procedure β) :
    (procedure >>= next).on registry =
      match procedure.on registry with
      | (.ok value, after) => (next value).on after
      | (.error failure, after) => (.error failure, after) := by
  unfold on ExceptT.run StateT.run Id.run
  simp only [bind, ExceptT.bind, ExceptT.mk, StateT.bind, ExceptT.bindCont]
  cases procedure registry with
  | mk result after => cases result <;> rfl

/-- A failure is dealt with where it happened. -/
@[simp] theorem on_tryCatch (procedure : Procedure α) (rescue : Failure → Procedure α) :
    (tryCatch procedure rescue).on registry =
      match procedure.on registry with
      | (.ok value, after) => (.ok value, after)
      | (.error failure, after) => (rescue failure).on after := by
  unfold on ExceptT.run StateT.run Id.run
  simp only [tryCatch, tryCatchThe, MonadExceptOf.tryCatch, ExceptT.tryCatch, ExceptT.mk, bind,
    StateT.bind]
  cases procedure registry with
  | mk result after => cases result <;> rfl

@[simp] theorem on_attempt (result : Except Failure α) :
    (attempt result).on registry = (result, registry) := by
  cases result <;> rfl

/-! ### Registration -/

theorem on_linkExtension (source extension : String) :
    (linkExtension source extension).on registry =
      (.ok (), registry.linkExtension source extension) := by
  unfold linkExtension Registry.linkExtension
  rw [on_bind, on_get]
  dsimp only
  cases Entries.get? registry.catalog source <;> rfl

theorem on_addWaiting {schema : Schema} (h : Entries.Ascending registry.catalog)
    (pending : List String) (ledger : Ledger) :
    (forM pending (addWaiting schema.name)).on
        { registry with
          catalog := Entries.put registry.catalog schema.name schema, ledger := ledger } =
      (.ok (), { registry with
        catalog := Entries.put registry.catalog schema.name (pending.foldl Schema.addExtension schema)
        ledger := ledger }) := by
  induction pending generalizing schema with
  | nil => rfl
  | cons extension pending ih =>
    have hname : (schema.addExtension extension).name = schema.name := by
      show (schema.addExtension extension).asLoaded.name = schema.asLoaded.name
      rw [Schema.addExtension_asLoaded]
    have hrest := @ih (schema.addExtension extension)
    rw [hname] at hrest
    unfold addWaiting at hrest ⊢
    rw [List.forM_cons, on_bind, on_modify]
    dsimp only
    rw [h.modify_put, hrest]
    rfl

theorem on_place (h : Entries.Ascending registry.catalog) (schema : Schema) :
    (place schema).on registry = (.ok (), registry.place schema) := by
  unfold place
  simp only [on_bind, on_modify, on_get, on_addWaiting h]
  rfl

theorem on_takeIn (h : Entries.Ascending registry.catalog) (schema : Schema)
    (linkTo : Option String) :
    (takeIn schema linkTo).on registry =
      (.ok schema.name, match linkTo with
        | some source => (registry.place schema).linkExtension source schema.name
        | none => registry.place schema) := by
  unfold takeIn
  rw [on_bind, on_place h]
  dsimp only
  cases linkTo with
  | none => rfl
  | some source =>
    show (linkExtension source schema.name >>= fun _ => pure schema.name).on _ = _
    rw [on_bind, on_linkExtension]
    rfl

theorem on_park (name : String) (extensions : List String) :
    (forM extensions (park name)).on registry =
      (.ok (), { registry with
        ledger := (extensions.filter fun extension =>
          Entries.hasKey registry.catalog extension).foldl
            (fun ledger extension => ledger.defer name extension) registry.ledger }) := by
  induction extensions generalizing registry with
  | nil => rfl
  | cons extension extensions ih =>
    have hfirst : (park name extension).on registry =
        (.ok (), if Entries.hasKey registry.catalog extension then
          { registry with ledger := registry.ledger.defer name extension } else registry) := by
      unfold park
      rw [on_bind, on_get]
      dsimp only
      split <;> rfl
    rw [List.forM_cons, on_bind, hfirst, List.filter_cons]
    dsimp only
    rw [ih]
    split <;> rfl

theorem on_remove (h : registry.Tidy) (name : String) (detach : Bool) :
    (remove name detach).on registry =
      match Entries.get? registry.catalog name with
      | some schema => (.ok (some schema), registry.remove schema detach)
      | none => (.ok none, registry) := by
  unfold remove
  rw [on_bind, on_get]
  dsimp only
  cases hget : Entries.get? registry.catalog name with
  | none => rfl
  | some schema =>
    obtain rfl := h.name_eq hget
    have hunlink : ((if detach then schema.patchSource else none).forM fun source =>
        unlinkExtension source schema.name).on (registry.takeOut schema.name) =
          (.ok (), registry.detached schema detach) := by
      unfold Registry.detached Registry.unlink
      cases detach with
      | false => rfl
      | true => cases schema.patchSource <;> rfl
    rw [on_bind, on_modify]
    show ((Option.forM _ _ : Procedure Unit) >>= _).on (registry.takeOut schema.name) = _
    rw [on_bind, hunlink]
    dsimp only
    rw [on_bind, on_park]
    rfl

/-- A registration that fails has done nothing yet. -/
theorem on_insert (h : registry.Tidy) (schema : Schema) (replace : Bool) :
    (insert schema replace).on registry =
      match registry.insert schema replace with
      | .ok after => (.ok schema.name, after)
      | .error failure => (.error failure, registry) := by
  unfold insert Registry.insert
  split
  · rfl
  · rw [on_bind, on_get]
    dsimp only
    cases hget : Entries.get? registry.catalog schema.name with
    | none =>
      dsimp only
      rw [on_takeIn h.ascends]
      unfold Registry.enter Registry.link
      cases schema.patchSource <;> rfl
    | some existing =>
      dsimp only
      split
      · rfl
      · rw [on_bind, on_remove h, hget]
        dsimp only
        have hascends := (h.remove existing
          (!decide (existing.patchSource = schema.patchSource))).ascends
        split
        · next hkeeps =>
          rw [on_takeIn hascends]
          simp [Registry.enter, hkeeps]
        · next hmoves =>
          rw [on_takeIn hascends]
          unfold Registry.enter Registry.link
          simp only [hmoves]
          cases schema.patchSource <;> rfl

theorem on_register (h : registry.Tidy) (handle : Handle) (replace : Bool) :
    (register handle replace).on registry =
      registry.settle (registry.registerLoaded handle.load replace) id := by
  unfold register Registry.registerLoaded
  rw [on_bind, on_attempt]
  cases handle.load with
  | error failure => rfl
  | ok schema =>
    dsimp only
    rw [on_insert h, ok_bind]
    cases registry.insert schema replace <;> rfl

theorem on_deregister (h : registry.Tidy) (name : String) :
    (deregister name).on registry =
      (.ok (registry.deregister name).1, (registry.deregister name).2) := by
  unfold deregister Registry.deregister
  rw [on_bind, on_remove h]
  cases Entries.get? registry.catalog name <;> rfl

/-! ### Formats, keywords and settings -/

theorem on_registerFormats (formats : List (String × String)) :
    (registerFormats formats).on registry =
      (.ok (registry.registerFormats formats).1, (registry.registerFormats formats).2) := by
  unfold registerFormats
  induction formats generalizing registry with
  | nil => rfl
  | cons format formats ih =>
    rw [List.mapM_cons, on_bind]
    simp only [on_bind, on_modify, on_pure]
    rw [ih]
    rfl

/-- A keyword is refused before anything is installed. -/
theorem on_registerKeyword (keyword : Keyword) :
    (registerKeyword keyword).on registry =
      (.ok (registry.registerKeyword keyword).1, (registry.registerKeyword keyword).2) := by
  unfold registerKeyword addKeyword Registry.registerKeyword Engine.addKeyword
  rw [on_tryCatch, on_bind, on_bind, on_get]
  dsimp only
  cases registry.engine.keywordFault? keyword with
  | some fault => rfl
  | none =>
    dsimp only
    rw [on_bind, on_attempt]
    cases Engine.valueValidator keyword <;> rfl

theorem on_applyPolicy (settings : Settings) (directory : String) :
    (applyPolicy settings directory).on registry =
      (.ok (), registry.applyPolicy settings directory) := by
  unfold applyPolicy Registry.applyPolicy
  simp only [on_bind, on_modify]
  cases settings.policy.cacheCompiled <;> rfl

/-! ### Resolution -/

/-- What is kept already may be put back where it is. -/
theorem put_memo (h : registry.Tidy) {name : String} {schema : Schema}
    (hget : Entries.get? registry.catalog name = some schema) :
    Entries.put registry.catalog name { schema with memo := schema.memo } = registry.catalog :=
  h.ascends.put_of_get? hget

theorem on_compileAnew (h : registry.Tidy) {name : String} {schema : Schema}
    (hget : Entries.get? registry.catalog name = some schema) (key : Fingerprint) (prepared : Value)
    (cache : Bool) :
    (compileAnew name schema key prepared cache).on registry =
      registry.settle ((registry.engine.compile registry.nextSerial schema.name prepared).map
        fun compiled => (.compiled compiled, { registry with
          catalog := Entries.put registry.catalog name
            { schema with memo := if cache then some ⟨key, compiled⟩ else schema.memo }
          nextSerial := registry.nextSerial + 1 })) id := by
  unfold compileAnew
  rw [on_bind, on_get]
  dsimp only
  rw [on_bind, on_attempt]
  cases registry.engine.compile registry.nextSerial schema.name prepared with
  | error failure => rfl
  | ok compiled =>
    dsimp only [Except.map, Registry.settle]
    rw [on_bind, on_modify]
    cases cache with
    | true => rfl
    | false =>
      rw [if_neg Bool.false_ne_true, put_memo h hget]
      rfl

/-- A build that fails has kept nothing yet. -/
theorem on_build (h : registry.Tidy) {name : String} {schema : Schema}
    (hget : Entries.get? registry.catalog name = some schema) (options : BuildOptions) :
    (build name schema options).on registry =
      registry.settle ((schema.build registry.catalog registry.engine registry.nextSerial options).map
        fun built => (built.resolved, { registry with
          catalog := Entries.put registry.catalog name { schema with memo := built.memo }
          nextSerial := built.nextSerial })) id := by
  unfold build
  rw [on_bind, on_get]
  dsimp only
  rw [on_bind, on_attempt]
  cases hcompiled : options.compiled with
  | false =>
    rw [Schema.build_raw hcompiled]
    cases registry.catalog.compose schema with
    | error failure => rfl
    | ok composed =>
      dsimp only [Except.map, Registry.settle]
      rw [put_memo h hget]
      rfl
  | true =>
    rw [Schema.build_compiled hcompiled]
    unfold Schema.prepareIn Schema.keyOf
    cases registry.catalog.compose schema with
    | error failure => rfl
    | ok composed =>
      rw [ok_bind]
      dsimp only
      rw [if_neg (not_not_intro rfl), on_bind, on_attempt]
      cases registry.engine.prepare schema.name composed registry.catalog.resolver with
      | error failure => rfl
      | ok prepared =>
        dsimp only [Except.bind]
        cases if options.cache then
            schema.cached? (Fingerprint.ofCompilation registry.engine.generation prepared)
          else none with
        | some compiled =>
          dsimp only [Except.map, Registry.settle]
          rw [put_memo h hget]
          rfl
        | none =>
          dsimp only
          rw [on_compileAnew h hget]
          cases registry.engine.compile registry.nextSerial schema.name prepared <;> rfl

/-- A resolution that fails has kept nothing yet. -/
theorem on_resolve (h : registry.Tidy) (name : String) (options : BuildOptions) :
    (resolve name options).on registry =
      registry.settle (registry.resolve name options) id := by
  unfold resolve
  rw [on_bind, on_get]
  dsimp only
  cases hget : Entries.get? registry.catalog name with
  | none => rw [Registry.resolve_unregistered hget]; rfl
  | some schema =>
    rw [Registry.resolve_registered hget]
    exact on_build h hget _

/-- A validation ends before it has kept anything, or the document was held against its schema. -/
theorem on_validate (h : registry.Tidy) (name : String) (document : Value) :
    (validate name document).on registry =
      ((registry.validate name document).1, (registry.validate name document).2) := by
  unfold validate Registry.validate Registry.resolveCompiled
  rw [on_bind, on_resolve h]
  cases hresolve : registry.resolve name {} with
  | error failure => rfl
  | ok result =>
    obtain ⟨resolved, after⟩ := result
    obtain ⟨compiled, rfl⟩ := Registry.resolve_compiled rfl hresolve
    exact on_attempt _

theorem on_compile (document : Value) :
    (compile document).on registry = registry.settle (registry.compile document) id := by
  unfold compile Registry.compile
  rw [on_bind, on_get]
  dsimp only
  rw [on_bind, on_attempt]
  cases registry.engine.prepare (((document.member? "$id").bind Value.asString?).getD "") document
      registry.catalog.resolver with
  | error failure => rfl
  | ok prepared =>
    dsimp only
    rw [on_bind, on_attempt, ok_bind]
    cases registry.engine.compile registry.nextSerial
        (((document.member? "$id").bind Value.asString?).getD "") prepared <;> rfl

end Procedure

/-- A compiled schema fails at a document by its violations only. -/
theorem Compiled.invalid_of_validate {compiled : Compiled} {subject : Value} {failure : Failure}
    (h : compiled.validate subject = .error failure) : ∃ errors, failure = .invalid errors := by
  unfold Compiled.validate at h
  dsimp only at h
  split at h
  · cases h
  · cases h
    exact ⟨_, rfl⟩

namespace Registry

/-- Settling an answer is settling the value and answering with it. -/
theorem settle_answer {α β : Type} (registry : Registry) (result : Except Failure (α × Registry))
    (answer : α → β) :
    (match registry.settle result id with
      | (.ok value, after) => (.ok (answer value), after)
      | (.error failure, after) => (.error failure, after)) = registry.settle result answer := by
  cases result <;> rfl

theorem settle_snd {α β : Type} (registry : Registry) (result : Except Failure (α × Registry))
    (answer : α → β) : (registry.settle result answer).2 = registry.after result := by
  cases result <;> rfl

/-- An operation that reports no failure by its answers keeps the registry when it fails. -/
theorem settle_of_reportsFailure {α : Type} {registry : Registry} {operation : Operation}
    {result : Except Failure (α × Registry)} {answer : α → Answer}
    (hanswer : ∀ value, operation.reportsFailure (.ok (answer value)) = false)
    (hfails : operation.reportsFailure (registry.settle result answer).1) :
    (registry.settle result answer).2 = registry := by
  cases result with
  | error failure => rfl
  | ok result => exact absurd hfails (by rw [settle, hanswer]; decide)

/-- In place or not, an operation gives the same and leaves the same registry behind. -/
theorem carryOut_eq_outcome {registry : Registry} (h : registry.Tidy) (operation : Operation) :
    operation.carryOut.on registry = registry.outcome operation := by
  cases operation with
  | register handle replace =>
    dsimp only [Operation.carryOut]
    rw [Procedure.on_bind, Procedure.on_register h]
    exact settle_answer registry _ Answer.registered
  | deregister name =>
    dsimp only [Operation.carryOut]
    rw [Procedure.on_bind, Procedure.on_deregister h]
    dsimp only [Procedure.on_pure, outcome, Prod.map, id, Function.comp]
  | beginDiscovery => rfl
  | registerFormats formats =>
    dsimp only [Operation.carryOut]
    rw [Procedure.on_bind, Procedure.on_registerFormats]
    dsimp only [Procedure.on_pure, outcome, Prod.map, id, Function.comp]
  | registerKeyword keyword =>
    dsimp only [Operation.carryOut]
    rw [Procedure.on_bind, Procedure.on_registerKeyword]
    dsimp only [Procedure.on_pure, outcome, Prod.map, id, Function.comp]
  | applyPolicy settings directory =>
    dsimp only [Operation.carryOut]
    rw [Procedure.on_bind, Procedure.on_applyPolicy]
    rfl
  | clearCache => rfl
  | resolve name options =>
    dsimp only [Operation.carryOut]
    rw [Procedure.on_bind, Procedure.on_resolve h]
    exact settle_answer registry _ Answer.resolved
  | validate name document =>
    dsimp only [Operation.carryOut, outcome]
    rw [Procedure.on_bind, Procedure.on_validate h]
    cases registry.validate name document with
    | mk result after => cases result <;> rfl
  | compile document =>
    dsimp only [Operation.carryOut]
    rw [Procedure.on_bind, Procedure.on_compile]
    exact settle_answer registry _ Answer.compiled

/-- An operation leaves behind the registry of its step. -/
theorem outcome_snd (registry : Registry) (operation : Operation) :
    (registry.outcome operation).2 = registry.perform operation := by
  cases operation with
  | register handle replace => exact settle_snd registry _ _
  | resolve name options => exact settle_snd registry _ _
  | compile document => exact settle_snd registry _ _
  | _ => dsimp only [outcome, perform, Prod.map, id]

/-- A validation that is no judgement on the document has kept nothing yet. -/
theorem validate_of_error {registry : Registry} {name : String} {document : Value}
    {failure : Failure} (hfails : (registry.validate name document).1 = .error failure)
    (hjudged : ∀ errors, failure ≠ .invalid errors) :
    (registry.validate name document).2 = registry := by
  unfold validate at hfails ⊢
  cases hresolve : registry.resolveCompiled name with
  | error _ => rfl
  | ok result =>
    rw [hresolve] at hfails
    obtain ⟨errors, hinvalid⟩ := Compiled.invalid_of_validate hfails
    exact absurd hinvalid (hjudged errors)

/-- An operation that reports a failure comes to the registry that it started with. -/
theorem outcome_of_reportsFailure {registry : Registry} {operation : Operation}
    (hfails : operation.reportsFailure (registry.outcome operation).1) :
    (registry.outcome operation).2 = registry := by
  cases operation with
  | register handle replace => exact settle_of_reportsFailure (fun _ => rfl) hfails
  | deregister name =>
    dsimp only [outcome, deregister] at hfails ⊢
    cases hget : Entries.get? registry.catalog name with
    | none => rfl
    | some schema => rw [hget] at hfails; cases hfails
  | beginDiscovery => cases hfails
  | registerFormats formats => cases hfails
  | registerKeyword keyword =>
    dsimp only [outcome, registerKeyword] at hfails ⊢
    cases hadd : registry.engine.addKeyword keyword with
    | error failure => rfl
    | ok engine => rw [hadd] at hfails; cases hfails
  | applyPolicy settings directory => cases hfails
  | clearCache => cases hfails
  | resolve name options => exact settle_of_reportsFailure (fun _ => rfl) hfails
  | validate name document =>
    dsimp only [outcome] at hfails ⊢
    cases hresult : registry.validate name document with
    | mk result after =>
      rw [hresult] at hfails
      cases result with
      | ok _ => cases hfails
      | error failure =>
        have hkept := validate_of_error (congrArg Prod.fst hresult) fun errors hinvalid => by
          rw [hinvalid] at hfails
          cases hfails
        rw [hresult] at hkept
        exact hkept
  | compile document => exact settle_of_reportsFailure (fun _ => rfl) hfails

/-! ## Top theorem -/

/-- In every history, an operation does in place what its functions say, and if it reports a failure
then the registry after it is the one before it: schemas with their extensions and what is kept of
them, the ledger, formats, keywords, settings and generation. -/
theorem failure_leaves_no_trace (settings : Settings) (directory : String)
    (history : List Operation) (operation : Operation) :
    let registry := (new settings directory).run history
    operation.carryOut.on registry = registry.outcome operation ∧
      (operation.carryOut.on registry).2 = registry.perform operation ∧
      (operation.reportsFailure (operation.carryOut.on registry).1 →
        (operation.carryOut.on registry).2 = registry) := by
  intro registry
  have hsame := carryOut_eq_outcome (tidy_run settings directory history) operation
  refine ⟨hsame, ?_, fun hfails => ?_⟩
  · rw [hsame, outcome_snd]
  · rw [hsame] at hfails ⊢
    exact outcome_of_reportsFailure hfails

/-- A schema is extended and refers to a schema that is taken out again: it cannot be resolved. -/
theorem failure_leaves_no_trace_of_missing :
    let registry := (new {} "").run
      [.register (.document (.object [("$id", .string "home"), ("$ref", .string "address")])) false,
        .register (.document (.object [("$id", .string "address")])) false, .resolve "home" {},
        .register (.document (.object [("$id", .string "flat"),
          ("$patch", .object [("source", .object [("$ref", .string "home")])])])) false,
        .deregister "address"]
    ((Operation.resolve "home" {}).carryOut.on registry).2 = registry :=
  (failure_leaves_no_trace {} "" [
    .register (.document (.object [("$id", .string "home"), ("$ref", .string "address")])) false,
    .register (.document (.object [("$id", .string "address")])) false, .resolve "home" {},
    .register (.document (.object [("$id", .string "flat"),
      ("$patch", .object [("source", .object [("$ref", .string "home")])])])) false,
    .deregister "address"] (.resolve "home" {})).2.2 (by decide +kernel)

end Registry

end Schemata
