import Schemata.Build
import Schemata.Discovery
import Schemata.Ledger
import Schemata.Settings
import Schemata.Text.Fuzzy

/-!
# The registry

Schemas by name, with the extensions that wait for schemas to come, the engine and the settings.
Registration ties an extension to the schema that it extends, at once or when that schema arrives.
Every operation gives the registry after it; one that fails gives none, so that it changes nothing.
-/

namespace Schemata

open Json (Value)
open Files (FileSystem)
open Schemata.Format (GuardedFormat)

/-- A registry. -/
structure Registry where
  /-- The registered schemas. -/
  catalog : Catalog
  /-- The extensions that wait. -/
  ledger : Ledger
  /-- The engine. -/
  engine : Engine
  /-- The policy. -/
  policy : Policy
  /-- The configured roots. -/
  roots : List String
  /-- The number of the next compilation. -/
  nextSerial : Nat

namespace Registry

/-! ## Formats and keywords -/

/-- The formats that every registry has from the start. -/
def builtinFormats : List (String × String) := [
  ("identifier", "^[A-Za-z_][A-Za-z0-9_]*$"),
  ("semver", "^(0|[1-9][0-9]*)\\.(0|[1-9][0-9]*)\\.(0|[1-9][0-9]*)(?:-[0-9A-Za-z.-]+)?(?:\\+[0-9A-Za-z.-]+)?$"),
  ("slug", "^[a-z0-9]+(?:-[a-z0-9]+)*$"),
  ("sha256", "^[a-f0-9]\x7b64\x7d$"),
  ("hex-color", "^#(?:[0-9a-fA-F]\x7b3\x7d)\x7b1,2\x7d$"),
  ("locale", "^[a-z]\x7b2,3\x7d(?:-[A-Z]\x7b2\x7d)?$")]

def registerFormat (registry : Registry) (name pattern : String) : GuardedFormat × Registry :=
  let format := Format.guard name pattern
  (format, { registry with engine := registry.engine.addFormat format })

def registerFormats (registry : Registry) :
    List (String × String) → List GuardedFormat × Registry
  | [] => ([], registry)
  | (name, pattern) :: rest =>
    let (format, registry) := registry.registerFormat name pattern
    let (formats, registry) := registry.registerFormats rest
    (format :: formats, registry)

/-- Installs a keyword, and says whether it did. -/
def registerKeyword (registry : Registry) (keyword : Keyword) : Bool × Registry :=
  match registry.engine.addKeyword keyword with
  | .ok engine => (true, { registry with engine })
  | .error _ => (false, registry)

/-! ## Settings -/

/-- A registry with settings whose formats are left out; relative roots are seen from a directory. -/
def new (settings : Settings) (directory : String) : Registry :=
  let engine := Engine.empty.configure settings.policy.validateFormats
  let bare : Registry :=
    ⟨[], Ledger.empty, engine, settings.policy, settings.rootsFrom directory, 0⟩
  (bare.registerFormats builtinFormats).2

/-- Forgets everything that was compiled. -/
def clearCache (registry : Registry) : Registry :=
  { registry with catalog := Entries.mapValues Schema.invalidate registry.catalog }

/-- Takes over policy and roots. Without a cache nothing that was compiled stays. -/
def applyPolicy (registry : Registry) (settings : Settings) (directory : String) : Registry :=
  let changed := { registry with
    engine := registry.engine.configure settings.policy.validateFormats
    policy := settings.policy
    roots := settings.rootsFrom directory }
  if settings.policy.cacheCompiled then changed else changed.clearCache

/-- Takes over settings: policy and roots first, then the formats in order of their names. -/
def applySettings (registry : Registry) (settings : Settings) (directory : String) : Registry :=
  ((registry.applyPolicy settings directory).registerFormats settings.formats).2

/-! ## Registration -/

/-- Ties an extension to the schema that it extends, or lets it wait for that schema. -/
def linkExtension (registry : Registry) (source extension : String) : Registry :=
  match Entries.get? registry.catalog source with
  | some base =>
    { registry with catalog := Entries.put registry.catalog source (base.addExtension extension) }
  | none => { registry with ledger := registry.ledger.defer source extension }

/-- Takes an extension away from the schema that it extends, or from among those that wait. -/
def unlinkExtension (registry : Registry) (source extension : String) : Registry :=
  { registry with
    catalog := Entries.modify registry.catalog source fun base => base.removeExtension extension
    ledger := (registry.ledger.withdraw source extension).2 }

/-- Ties a schema to the one that it extends, if any. -/
def link (registry : Registry) (schema : Schema) : Registry :=
  match schema.patchSource with
  | some source => registry.linkExtension source schema.name
  | none => registry

/-- Takes a schema away from the one that it extends, if any. -/
def unlink (registry : Registry) (schema : Schema) : Registry :=
  match schema.patchSource with
  | some source => registry.unlinkExtension source schema.name
  | none => registry

/-- Puts a schema into the catalog with the extensions that wait for it. -/
def place (registry : Registry) (schema : Schema) : Registry :=
  let (pending, ledger) := registry.ledger.drain schema.name
  { registry with
    catalog := Entries.put registry.catalog schema.name (pending.foldl Schema.addExtension schema)
    ledger }

def takeOut (registry : Registry) (name : String) : Registry :=
  { registry with catalog := Entries.without registry.catalog name }

/-- Lets the registered extensions of a schema wait for the next one of its name, in their order. -/
def park (registry : Registry) (schema : Schema) : Registry :=
  let waiting := schema.extensions.filter fun extension => Entries.hasKey registry.catalog extension
  { registry with
    ledger := waiting.foldl (fun ledger extension => ledger.defer schema.name extension)
      registry.ledger }

/-- Puts a schema into the catalog, and ties it to the schema that it extends if so wanted. -/
def enter (registry : Registry) (schema : Schema) (link : Bool) : Registry :=
  let placed := registry.place schema
  if link then placed.link schema else placed

/-- Takes a schema out of the catalog. Its registered extensions wait for the next schema of the
name; with `unlink` it is also no longer an extension itself. -/
def remove (registry : Registry) (schema : Schema) (unlink : Bool) : Registry :=
  let without := registry.takeOut schema.name
  let unlinked := if unlink then without.unlink schema else without
  unlinked.park schema

/-- Registers a schema. With `replace` a registered one of the same name is replaced; if both extend
the same schema, or none, the new one keeps the place of the old one among the extensions. -/
def insert (registry : Registry) (schema : Schema) (replace : Bool) : Except Failure Registry :=
  if schema.patchSource = some schema.name then
    .error (.circularExtension [schema.name, schema.name])
  else
    match Entries.get? registry.catalog schema.name with
    | none => .ok (registry.enter schema true)
    | some existing =>
      if ¬ replace then .error (.schemaExists schema.name existing.source)
      else
        let keepsPlace := existing.patchSource = schema.patchSource
        .ok ((registry.remove existing (!keepsPlace)).enter schema (!keepsPlace))

def registerLoaded (registry : Registry) (loaded : Except Failure Schema) (replace : Bool) :
    Except Failure (String × Registry) := do
  let schema ← loaded
  let registry ← registry.insert schema replace
  pure (schema.name, registry)

def registerDocument (registry : Registry) (document : Value) (replace : Bool) :
    Except Failure (String × Registry) :=
  registry.registerLoaded (Schema.ofDocument document none) replace

def registerFile (registry : Registry) (files : FileSystem) (path : String) (replace : Bool) :
    Except Failure (String × Registry) :=
  if path.isEmpty then .error (.invalidParam "path")
  else registry.registerLoaded (Discovery.load files path) replace

/-- Takes a schema out of the registry, and says whether it was there. -/
def deregister (registry : Registry) (name : String) : Bool × Registry :=
  match Entries.get? registry.catalog name with
  | some schema => (true, registry.remove schema true)
  | none => (false, registry)

/-! ## Discovery -/

/-- The registry without schemas and without waiting extensions. -/
def emptied (registry : Registry) : Registry :=
  { registry with catalog := [], ledger := Ledger.empty }

/-- Registers a schema that was loaded from a path, or reports why not. -/
def admitLoaded (state : Registry × Discovery.Report) (path : String)
    (loaded : Except Failure Schema) : Registry × Discovery.Report :=
  let (registry, report) := state
  match registry.registerLoaded loaded false with
  | .ok (name, registry) => (registry, { report with registered := report.registered ++ [name] })
  | .error reason => (registry, { report with losses := report.losses ++ [⟨path, reason⟩] })

/-- The roots of the host and then the configured ones that are not among them. -/
def allRoots (registry : Registry) (host : List String) : List String :=
  registry.roots.foldl (fun roots root =>
    if (roots.map Files.parts).contains (Files.parts root) then roots else roots ++ [root]) host

/-- Empties the catalog and registers all schema files below all roots, in order. What cannot be
read is reported: roots first, then files. -/
def discover (registry : Registry) (files : FileSystem) (host : List String) :
    Registry × Discovery.Report :=
  let scanned := (registry.allRoots host).map fun root => (root, Discovery.scan files root)
  let found := scanned.flatMap fun (_, result) => result.toOption.getD []
  let lost := scanned.filterMap fun (root, result) =>
    match result with
    | .ok _ => none
    | .error reason => some ⟨root, reason⟩
  found.foldl (fun state path => admitLoaded state path (Discovery.load files path))
    (registry.emptied, ⟨[], lost⟩)

/-- Takes over settings if there are any, and discovers schemas. -/
def start (registry : Registry) (files : FileSystem) (host : List String)
    (settings : Option Settings) : Registry × Discovery.Report :=
  match settings with
  | some settings => (registry.applySettings settings files.current).discover files host
  | none => registry.discover files host

/-! ## Resolution -/

/-- Builds a registered schema. -/
def resolve (registry : Registry) (name : String) (options : BuildOptions) :
    Except Failure (Resolved × Registry) :=
  match Entries.get? registry.catalog name with
  | none => .error (.schemaNotFound name)
  | some schema => do
    let options := { options with cache := options.cache && registry.policy.cacheCompiled }
    let built ← schema.build registry.catalog registry.engine registry.nextSerial options
    pure (built.resolved, { registry with
      catalog := Entries.put registry.catalog name { schema with memo := built.memo }
      nextSerial := built.nextSerial })

def resolveDocument (registry : Registry) (name : String) : Except Failure Value :=
  registry.catalog.composeNamed name

def resolveCompiled (registry : Registry) (name : String) : Except Failure (Compiled × Registry) := do
  match ← registry.resolve name {} with
  | (.compiled compiled, registry) => pure (compiled, registry)
  | (.document _, _) => .error (.compile name "no compiled schema was built")

def compile (registry : Registry) (document : Value) : Except Failure (Compiled × Registry) := do
  let name := ((document.member? "$id").bind Value.asString?).getD ""
  let prepared ← registry.engine.prepare name document registry.catalog.resolver
  let compiled ← registry.engine.compile registry.nextSerial name prepared
  pure (compiled, { registry with nextSerial := registry.nextSerial + 1 })

/-- Holds a document against a registered schema. The registry keeps what was compiled for that even
if the document fails. -/
def validate (registry : Registry) (name : String) (document : Value) :
    Except Failure Unit × Registry :=
  match registry.resolveCompiled name with
  | .ok (compiled, registry) => (compiled.validate document, registry)
  | .error failure => (.error failure, registry)

/-! ## Queries -/

def names (registry : Registry) : List String := Entries.keys registry.catalog

def contains (registry : Registry) (name : String) : Bool := Entries.hasKey registry.catalog name

/-- The number of registered schemas. -/
def size (registry : Registry) : Nat := registry.catalog.length

/-- The extensions of a registered schema, in order of application. -/
def extensionsOf? (registry : Registry) (name : String) : Option (List String) :=
  (Entries.get? registry.catalog name).map (·.extensions)

/-- The file of a registered schema. -/
def sourceOf? (registry : Registry) (name : String) : Option String :=
  (Entries.get? registry.catalog name).bind (·.source)

/-- A registered schema that a search found. -/
structure SearchHit where
  /-- The name. -/
  name : String
  /-- How well it fits. -/
  score : Int
  /-- The file. -/
  source : Option String
  deriving DecidableEq, Repr

/-- The best hits of a query among the names, better ones first and then in order of names. -/
def search (registry : Registry) (query : String) (limit : Nat) : List SearchHit :=
  let hits := registry.catalog.filterMap fun (name, schema) =>
    (Text.Fuzzy.score? name query).map fun score => (⟨name, score, schema.source⟩ : SearchHit)
  (hits.mergeSort fun a b => b.score ≤ a.score).take limit

end Registry

end Schemata
