import Schemata.JsonSchema.Shape
import Schemata.JsonSchema.Standard
import Schemata.JsonSchema.Uri
import Schemata.Json.Pointer
import Schemata.Text.Words

/-!
# Scopes and references

A schema with an identity of its own is a resource: references inside it that start with a hash sign
point into it, and other references are read beside its identifier. A `Scope` is what surrounds a
schema, and `Scope.resolve?` follows a reference, into the document or into a standard schema. Nothing
else can be referred to: no schema is fetched.

Where a reference leads can depend on the way on which its schema was reached. An anchor that is
dynamic stands for the one of that name in the outermost resource on the way, and a recursive
reference goes to the outermost resource that has been extended without a gap.
-/

namespace Schemata.JsonSchema

open Json (Value)

/-- What a schema refers to: a text, or the recursive reference. -/
inductive Reference where
  | named (text : String)
  | recursive
  deriving DecidableEq

/-- A schema with the identifier of the innermost resource and the edition in it. -/
structure Place where
  uri : Uri
  draft : Draft
  schema : Value

/-- What surrounds a schema. -/
structure Scope where
  /-- The whole document. -/
  root : Value
  /-- The identifier of the innermost resource. -/
  uri : Uri
  /-- The identifiers of the resources on the way here, each of them once and the last one first. -/
  passed : List Uri
  /-- The outermost of the resources that end the way and are all marked as recursive. -/
  recursive? : Option Uri
  draft : Draft
  deriving DecidableEq

/-! ## Places -/

/-- The identity of a schema; one that is only an anchor does not count, and neither does one beside
a reference in the editions that read nothing there. -/
def identity? (draft : Draft) (schema : Value) : Option String :=
  match schema.member? draft.identityKey with
  | some (.string id) =>
    if Text.startsWith '#' id ∨ (¬ draft.readsBesideReference ∧ (schema.member? "$ref").isSome) then none
    else some (Draft.withoutHashes id)
  | _ => none

namespace Place

def inside (uri : Uri) (draft : Draft) (schema : Value) : Place :=
  let draft := draft.ofSubschema schema
  ⟨((identity? draft schema).bind uri.resolve?).getD uri, draft, schema⟩

/-- The schemas directly inside a schema. -/
def subschemas (draft : Draft) : Value → List Value
  | .object members =>
    members.flatMap fun (keyword, value) =>
      match Shape.ofKeyword? draft keyword, value with
      | none, _ => []
      | some (.leaf _), _ => []
      | some .schema, v => [v]
      | some .schemaOrBool, v => [v]
      | some .schemas, .array items => items
      | some .schemaOrSchemas, .array items => items
      | some .schemaOrSchemas, v => [v]
      | some .schemaMap, .object inner => inner.map (·.2)
      | some .dependencyMap, .object inner => (inner.map (·.2)).filter (·.isObject)
      | _, _ => []
  | _ => []

/-- The names under which a schema can be pointed to. -/
def anchors (place : Place) : List String :=
  let named (key : String) : List String :=
    match place.schema.member? key with
    | some (.string name) => [name]
    | _ => []
  if place.draft.atLeast .draft2019 then
    named "$anchor" ++ if place.draft = .draft2020 then named "$dynamicAnchor" else []
  else
    (named place.draft.identityKey).filterMap fun id =>
      if Text.startsWith '#' id then some (Text.behind '#' id) else none

/-- Whether a name of a schema stands for the same name further out. -/
def isDynamic (place : Place) (name : String) : Bool :=
  place.draft = .draft2020 && place.schema.member? "$dynamicAnchor" = some (.string name)

def isRecursive (place : Place) : Bool := place.schema.member? "$recursiveAnchor" = some (.bool true)

/-- Schemas and the schemas inside them, level by level. -/
def levels : Nat → List Place → List Place
  | 0, _ => []
  | fuel + 1, places =>
    if places.isEmpty then []
    else
      places ++ levels fuel (places.flatMap fun place =>
        (subschemas place.draft place.schema).map (inside place.uri place.draft))

def ofDocument (root : Value) : List Place := levels (root.size + 1) [inside .initial .draft2020 root]

def resources : List Place → List Place
  | [] => []
  | root :: places => root :: places.filter fun place => (identity? place.draft place.schema).isSome

end Place

namespace Scope

/-- The scope of a whole document. -/
def ofRoot (draft : Draft) (root : Value) : Scope :=
  let place := Place.inside .initial draft root
  ⟨root, place.uri, [], none, place.draft⟩

/-! ## Resources -/

/-- The schemas of the document with a resource of an identifier: the document at hand, or else a
standard schema. -/
def documentOf (scope : Scope) (uri : Uri) : List Place :=
  let isHeld (places : List Place) : Bool := (Place.resources places).any fun place => place.uri = uri
  let own := Place.ofDocument scope.root
  if isHeld own then own
  else ((Standard.documents.map Place.ofDocument).find? isHeld).getD []

/-- The resource with an identifier; of several the last. -/
def resource? (scope : Scope) (uri : Uri) : Option Place :=
  ((Place.resources (scope.documentOf uri)).filter fun place => place.uri = uri).getLast?

def isStandard (scope : Scope) (uri : Uri) : Bool :=
  !((Place.ofDocument scope.root).any fun place => place.uri = uri)

/-- The schema with an anchor in a resource; of several the last. -/
def anchored? (scope : Scope) (uri : Uri) (name : String) : Option Place :=
  ((scope.documentOf uri).filter fun place =>
    place.uri = uri && place.anchors.contains name).getLast?

/-! ## Ways -/

/-- The scope in a resource that is reached from here. -/
def moveTo (scope : Scope) (uri : Uri) : Scope :=
  if uri = scope.uri then scope
  else
    let marked := (scope.resource? scope.uri).any (·.isRecursive)
    { scope with
      uri
      passed := if scope.passed.contains scope.uri then scope.passed else scope.uri :: scope.passed
      recursive? := if marked then some (scope.recursive?.getD scope.uri) else none }

def enter (scope : Scope) (schema : Value) : Scope :=
  let place := Place.inside scope.uri scope.draft schema
  { scope.moveTo place.uri with draft := place.draft }

def along? (scope : Scope) (schema : Value) : List String → Option (Value × Scope)
  | [] => some (schema, scope)
  | step :: steps => (schema.child? step).bind fun child => (scope.enter child).along? child steps

/-! ## References -/

/-- The schema that an anchor stands for on the way here. -/
def outermost (scope : Scope) (place : Place) (name : String) : Place :=
  if place.isDynamic name then
    scope.passed.foldl (fun found uri =>
      match scope.anchored? uri name with
      | some other => if other.isDynamic name then other else found
      | none => found) place
  else place

/-- The schema that a text points to, and the scope inside it. -/
def named? (scope : Scope) (text : String) : Option (Value × Scope) :=
  if !UriReference.isReference false false text then none
  else
    let target := Text.before '#' text
    let fragment := Text.behind '#' text
    let uri? := if target.isEmpty then some scope.uri else scope.uri.resolve? target
    uri?.bind fun uri => (scope.resource? uri).bind fun place =>
      let there := { scope.moveTo uri with draft := place.draft }
      if fragment.isEmpty then some (place.schema, there)
      else if Text.startsWith '/' fragment then
        ((UriReference.decodePercent? fragment).bind Json.pointerSteps?).bind (there.along? place.schema)
      else
        (there.anchored? uri fragment).map fun found =>
          let found := there.outermost found fragment
          (found.schema, { there.moveTo found.uri with draft := found.draft })

/-- The schema that the recursive reference stands for on the way here, and the scope inside it. -/
def recursive (scope : Scope) : Option (Value × Scope) :=
  (scope.resource? scope.uri).bind fun place =>
    let uri := if place.isRecursive then scope.recursive?.getD scope.uri else scope.uri
    (scope.resource? uri).map fun found =>
      (found.schema, { scope.moveTo uri with draft := found.draft })

/-- The schema that a reference points to, and the scope inside it. -/
def resolve? (scope : Scope) : Reference → Option (Value × Scope)
  | .named text => scope.named? text
  | .recursive => scope.recursive

end Scope

end Schemata.JsonSchema
