import Schemata.JsonSchema.Scope

/-!
# Schemas that can be used

Not every document is a schema that a document can be held against. `compiles?` looks at the shape of
the whole schema and at what its references ask for, and then at every part that takes part in
evaluation, through all references. Standard schemas can be put to use.
-/

namespace Schemata.JsonSchema

open Json (Value)

/-! ## Parts -/

def takesPart (members : List (String × Value)) (keyword : String) : Bool :=
  match keyword with
  | "$defs" | "definitions" | "contentSchema" => false
  | "if" => Entries.hasKey members "then" || Entries.hasKey members "else"
  | "then" | "else" => Entries.hasKey members "if"
  | "additionalItems" =>
    match Entries.get? members "items" with
    | some (.array _) => true
    | _ => false
  | _ => true

/-- The reference that hides everything beside it, in the editions where one does. -/
def soleReference? (draft : Draft) (members : List (String × Value)) : Option Value :=
  if draft.readsBesideReference then none else Entries.get? members "$ref"

def activeMembers (draft : Draft) (members : List (String × Value)) : List (String × Value) :=
  match soleReference? draft members with
  | some reference => [("$ref", reference)]
  | none => members.filter fun member => takesPart members member.1

/-- The parts of a schema that take part in evaluation, itself included, each with the scope inside
it. -/
def activeParts : Nat → Scope → Value → List (Scope × Value)
  | 0, _, _ => []
  | fuel + 1, scope, schema =>
    let below := match schema with
      | .object members => Place.subschemas scope.draft (.object (activeMembers scope.draft members))
      | _ => []
    (scope, schema) :: below.flatMap fun part => activeParts fuel (scope.enter part) part

/-! ## Single schemas -/

/-- The members whose values are read when a schema is put to use. -/
def readMembers : List String := [
  "type", "enum", "multipleOf", "maximum", "minimum", "exclusiveMaximum", "exclusiveMinimum",
  "maxLength", "minLength", "maxItems", "minItems", "maxProperties", "minProperties", "pattern",
  "format", "uniqueItems", "required", "dependentRequired", "maxContains", "minContains"]

def hasMeaning (pattern : String) : Bool := (Pattern.EcmaNode.ofText? pattern).isSome

/-- Whether a member can be put to use; schemas inside it are not looked at. -/
def memberUsable (draft : Draft) (keyword : String) (value : Value) : Bool :=
  match keyword, value with
  | "$ref", .string reference => UriReference.isReference false false reference
  | "$ref", _ => false
  | "pattern", .string pattern => hasMeaning pattern
  | "patternProperties", .object table => table.all fun entry => hasMeaning entry.1
  | _, _ =>
    match Shape.ofKeyword? draft keyword, value with
    | some (.leaf test), v => !readMembers.contains keyword || test v
    | some .schemas, .array _ => true
    | some .schemas, _ => false
    | some .schemaMap, .object _ => true
    | some .schemaMap, _ => false
    | some .dependencyMap, .object _ => true
    | some .dependencyMap, _ => false
    | _, _ => true

/-- Whether a schema can be put to use; schemas inside it are not looked at. -/
def schemaUsable (draft : Draft) : Value → Bool
  | .bool _ => true
  | .object members => (activeMembers draft members).all fun (keyword, value) =>
    memberUsable draft keyword value
  | _ => false

def reference? (draft : Draft) : String → Value → Option Reference
  | "$ref", .string text => some (.named text)
  | "$dynamicRef", .string text => if draft = .draft2020 then some (.named text) else none
  | "$recursiveRef", .string _ => if draft = .draft2019 then some .recursive else none
  | _, _ => none

def referencesOf (draft : Draft) : Value → List Reference
  | .object members => (activeMembers draft members).filterMap fun (keyword, value) =>
    reference? draft keyword value
  | _ => []

/-! ## All schemas -/

def referencesIn (parts : List (Scope × Value)) : List (Scope × Reference) :=
  parts.flatMap fun (scope, schema) => (referencesOf scope.draft schema).map fun r => (scope, r)

/-- Whether all references lead to schemas that can be put to use, and so on. No reference is followed
twice, and none in a standard schema. -/
def referencesLead : Nat → List (Scope × Reference) → List (Scope × Reference) → Bool
  | 0, _, _ => true
  | _ + 1, _, [] => true
  | fuel + 1, done, (scope, reference) :: todo =>
    if done.contains (scope, reference) then referencesLead fuel done todo
    else
      match scope.resolve? reference with
      | none => false
      | some (target, around) =>
        let parts := if around.isStandard around.uri then [] else activeParts target.size around target
        parts.all (fun (scope, schema) => schemaUsable scope.draft schema) &&
          referencesLead fuel ((scope, reference) :: done) (todo ++ referencesIn parts)

/-- Whether the identity, the edition and the reference of a schema are well formed. -/
def labelsOk (place : Place) : Bool :=
  let isUri := UriReference.isReference false false
  let edition := match place.schema.member? "$schema" with
    | some (.string uri) => (Draft.ofUri? uri).isSome
    | _ => true
  let reference := match place.schema.member? "$ref" with
    | some (.string reference) => isUri reference
    | _ => true
  edition && reference && (identity? place.draft place.schema).all isUri

/-- What the addresses of standard schemas start with. What these do not lead to is found out when
the reference is followed. -/
def standardAddresses : List String := ["https://json-schema.org/draft/", "http://json-schema.org/draft-"]

/-- Whether the resource that the reference of a schema asks for is there, whether or not the schema
takes part in evaluation. -/
def referenceHeld (scope : Scope) (place : Place) : Bool :=
  match place.schema.member? "$ref" with
  | some (.string reference) =>
    let target := Text.before '#' reference
    target.isEmpty || place.uri.scheme? = some "urn".toList ||
      standardAddresses.any (fun address => address.toList.isPrefixOf reference.toList) ||
      ((place.uri.resolve? target).bind scope.resource?).isSome
  | _ => true

/-- The edition of a schema, if documents can be held against it. -/
def compiles? (schema : Value) : Option Draft :=
  (Draft.ofSchema? schema).filter fun draft =>
    let scope := Scope.ofRoot draft schema
    let parts := activeParts schema.size scope schema
    let everywhere := Place.ofDocument schema
    everywhere.all labelsOk && everywhere.all (referenceHeld scope) && Shape.schemaOk draft schema &&
      parts.all (fun (scope, schema) => schemaUsable scope.draft schema) &&
      referencesLead ((schema.size + 1) * (schema.size + 1) * (schema.size + 1)) [] (referencesIn parts)

end Schemata.JsonSchema
