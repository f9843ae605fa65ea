import Schemata.JsonSchema.Scope
import Schemata.JsonSchema.Violation
import Schemata.JsonSchema.Format
import Schemata.Json.Reader

/-!
# Evaluation

Holds a document against a schema. The schema is read as it stands: every member adds its violations,
in the order of the members, and says which parts of the document it looked at.
-/

namespace Schemata.JsonSchema

open Json (Value)

/-- What evaluation depends on beside the schema. -/
structure Setting where
  /-- Formats that are installed; they hide built-in ones of the same name. -/
  format? : String → Option (String → Bool)
  /-- Whether formats are asserted. -/
  assertsFormats : Bool

/-- What holding a document against a schema has shown. -/
structure Outcome where
  /-- The violations. -/
  violations : List Violation
  /-- The members that were looked at. -/
  properties : List String
  /-- The items that were looked at. -/
  items : List Nat

namespace Outcome

def nothing : Outcome := ⟨[], [], []⟩

def violation (v : Violation) : Outcome := ⟨[v], [], []⟩

/-- One violation, unless something holds. -/
def require (holds : Bool) (v : Violation) : Outcome := if holds then nothing else violation v

def isValid (outcome : Outcome) : Bool := outcome.violations.isEmpty

/-- What was looked at counts only without violations. -/
def settled (outcome : Outcome) : Outcome :=
  if outcome.isValid then outcome else { outcome with properties := [], items := [] }

/-- Two outcomes together. -/
def and (a b : Outcome) : Outcome :=
  ⟨a.violations ++ b.violations, a.properties ++ b.properties, a.items ++ b.items⟩

def all (outcomes : List Outcome) : Outcome := outcomes.foldr and nothing

/-- The outcome of a part: its violations count, what it looked at is no part of this document. -/
def ofPart (outcome : Outcome) : Outcome := ⟨outcome.violations, [], []⟩

def ofMembers (parts : List (String × Outcome)) : Outcome :=
  { all (parts.map fun part => ofPart part.2) with properties := parts.map (·.1) }

def ofItems (parts : List (Nat × Outcome)) : Outcome :=
  { all (parts.map fun part => ofPart part.2) with items := parts.map (·.1) }

end Outcome

/-! ## Types and limits -/

def hasType (draft : Draft) (subject : Value) (name : String) : Bool :=
  match subject with
  | .null => name = "null"
  | .bool _ => name = "boolean"
  | .number (.integer _) => name = "integer" || name = "number"
  | .number n => name = "number" || (name = "integer" && draft ≠ .draft4 && n.isWhole)
  | .string _ => name = "string"
  | .array _ => name = "array"
  | .object _ => name = "object"

/-- The names of types in a value, in order of the alphabet where there are several. -/
def typesOf : Value → List String
  | .string name => [name]
  | .array [.string name] => [name]
  | .array items => Shape.typeNames.filter fun name => items.contains (.string name)
  | _ => []

def limitOf : Value → Nat
  | .number n => n.natural?.getD 0
  | _ => 0

def matchesPattern (pattern text : String) : Bool :=
  match Pattern.EcmaNode.ofText? pattern with
  | some node => node.matchesIn text
  | none => false

def limitNumber (subject limit : Value) (holds : Json.Number → Json.Number → Bool)
    (v : Value → Value → Violation) : Outcome :=
  match subject, limit with
  | .number a, .number b => .require (holds a b) (v subject limit)
  | _, _ => .nothing

def limitCount (subject limit : Value) (count : Option Nat) (holds : Nat → Nat → Bool)
    (v : Value → Nat → Violation) : Outcome :=
  match count with
  | some n => .require (holds n (limitOf limit)) (v subject (limitOf limit))
  | none => .nothing

/-- The number of characters of a text. -/
def charCount? : Value → Option Nat
  | .string s => some s.length
  | _ => none

def itemCount? : Value → Option Nat
  | .array items => some items.length
  | _ => none

def memberCount? : Value → Option Nat
  | .object members => some members.length
  | _ => none

def missing (subject names : Value) : Outcome :=
  match subject, names with
  | .object members, .array names =>
    .all <| names.map fun name =>
      match name with
      | .string name => .require (Entries.hasKey members name) (.required name)
      | _ => .nothing
  | _, _ => .nothing

/-! ## Formats and contents -/

def hasFormat (setting : Setting) (draft : Draft) (name text : String) : Bool :=
  match setting.format? name <|> Format.builtin? draft name with
  | some test => test text
  | none => true

/-- Whether a text is groups of four characters of 64, the last filled up with equals signs. -/
def isBase64 (text : List Char) : Bool :=
  let body := (text.reverse.dropWhile (· = '=')).reverse
  text.length % 4 = 0 && text.length - body.length ≤ 2 &&
    body.all fun c => c.isAlphanum || c = '+' || c = '/'

/-- Whether a text has the media type and the encoding that a schema gives. -/
def contentOutcome (schema : List (String × Value)) (subject : Value) : Outcome :=
  match subject with
  | .string s =>
    let encoded := Entries.get? schema "contentEncoding" = some (.string "base64")
    let json := Entries.get? schema "contentMediaType" = some (.string "application/json")
    if encoded then .require (isBase64 s.toList) (.encoding subject "base64")
    else if json then .require (Value.read s).toBool (.mediaType subject "application/json")
    else .nothing
  | _ => .nothing

/-! ## Members and items -/

/-- What keywords need: the edition, the schema that they stand in, how to hold a document against a
schema inside it, and how to follow a reference. -/
structure Surroundings where
  /-- Formats. -/
  setting : Setting
  /-- The edition. -/
  draft : Draft
  /-- The members of the schema. -/
  schema : List (String × Value)
  /-- Holds a document against a schema inside this one. -/
  run : Value → Value → Outcome
  /-- Holds a document against the schema of a reference. -/
  follow : Reference → Value → Outcome

namespace Surroundings

def table (around : Surroundings) (keyword : String) : List (String × Value) :=
  match Entries.get? around.schema keyword with
  | some (.object members) => members
  | _ => []

def patternsFor (around : Surroundings) (name : String) : List Value :=
  ((around.table "patternProperties").filter fun entry => matchesPattern entry.1 name).map (·.2)

/-- Whether `additionalProperties` takes over the work of the other keywords on members. -/
def joinsMembers (around : Surroundings) : Bool :=
  match Entries.get? around.schema "additionalProperties" with
  | some (.bool false) => true
  | some (.object _) => true
  | _ => false

/-- Members against the schemas of their names. -/
def properties (around : Surroundings) (subject : Value) : Outcome :=
  match subject with
  | .object members =>
    .ofMembers <| (around.table "properties").filterMap fun (name, schema) =>
      (Entries.get? members name).map fun value => (name, around.run schema value)
  | _ => .nothing

/-- Members against the schemas whose patterns match their names. -/
def patternProperties (around : Surroundings) (subject : Value) : Outcome :=
  match subject with
  | .object members =>
    .ofMembers <| (around.table "patternProperties").flatMap fun (pattern, schema) =>
      (members.filter fun member => matchesPattern pattern member.1).map fun (name, value) =>
        (name, around.run schema value)
  | _ => .nothing

/-- Members against the schemas of their names and patterns, and the other members against the
schema for the rest. -/
def additionalProperties (around : Surroundings) (rest subject : Value) : Outcome :=
  match subject with
  | .object members =>
    let named := around.table "properties"
    let schemasOf (name : String) : List Value :=
      (Entries.get? named name).toList ++ around.patternsFor name
    let known := .ofMembers <| members.flatMap fun (name, value) =>
      match schemasOf name with
      | [] => if rest = .bool false then [] else [(name, around.run rest value)]
      | schemas => schemas.map fun schema => (name, around.run schema value)
    let others := members.filter fun member => (schemasOf member.1).isEmpty
    if rest ≠ .bool false ∨ others.isEmpty then known
    else if Entries.hasKey around.schema "properties" ∨
        Entries.hasKey around.schema "patternProperties" then
      known.and (.violation (.additionalProperties (others.map (·.1))))
    else .violation (.falseSchema ((others.map (·.2)).headD .null))
  | _ => .nothing

def propertyNames (around : Surroundings) (schema subject : Value) : Outcome :=
  match subject with
  | .object members =>
    if schema = .bool false then .require members.isEmpty (.falseSchema subject)
    else .all (members.map fun member => (around.run schema (.string member.1)).ofPart)
  | _ => .nothing

def itemsFrom (around : Surroundings) (start : Nat) (schema subject : Value) : Outcome :=
  match subject with
  | .array items =>
    .ofItems <| ((items.drop start).zipIdx start).map fun (item, i) => (i, around.run schema item)
  | _ => .nothing

def itemsInPlace (around : Surroundings) (schemas : List Value) (subject : Value) : Outcome :=
  match subject with
  | .array items =>
    .ofItems <| ((schemas.zip items).zipIdx).map fun ((schema, item), i) => (i, around.run schema item)
  | _ => .nothing

def placedItems (around : Surroundings) (keyword : String) : Nat :=
  match Entries.get? around.schema keyword with
  | some (.array schemas) => schemas.length
  | _ => 0

def additionalItems (around : Surroundings) (rest subject : Value) : Outcome :=
  match Entries.get? around.schema "items", subject with
  | some (.array schemas), .array items =>
    if rest = .bool false then
      .require (items.length ≤ schemas.length) (.additionalItems (items.drop schemas.length))
    else around.itemsFrom schemas.length rest subject
  | _, _ => .nothing

/-- How many items satisfy a schema, between limits. -/
def contains (around : Surroundings) (schema subject : Value) : Outcome :=
  match subject with
  | .array items =>
    let hits := (items.zipIdx).filter fun (item, _) => (around.run schema item).isValid
    let limit (keyword : String) : Option Nat :=
      if around.draft.atLeast .draft2019 then (Entries.get? around.schema keyword).map limitOf else none
    let enough :=
      match limit "minContains", limit "maxContains" with
      | none, none => 0 < hits.length
      | some least, none => least ≤ hits.length
      | none, some most => 0 < hits.length && hits.length ≤ most
      | some least, some most => least ≤ hits.length && hits.length ≤ most
    let seen := if around.draft = .draft2020 then hits.map (·.2) else []
    { Outcome.require enough (.contains subject) with items := seen }
  | _ => .nothing

/-! ## Combinations -/

def allOf (around : Surroundings) (schemas : List Value) (subject : Value) : Outcome :=
  .all (schemas.map fun schema => (around.run schema subject).settled)

def anyOf (around : Surroundings) (schemas : List Value) (subject : Value) : Outcome :=
  let valid := (schemas.map fun schema => around.run schema subject).filter (·.isValid)
  if valid.isEmpty then .violation (.noneOf subject "anyOf") else .all valid

/-- Exactly one schema of a list. -/
def oneOf (around : Surroundings) (schemas : List Value) (subject : Value) : Outcome :=
  match (schemas.map fun schema => around.run schema subject).filter (·.isValid) with
  | [] => .violation (.noneOf subject "oneOf")
  | [outcome] => outcome
  | _ => .violation (.severalOf subject)

/-- One of two schemas, as a third says. -/
def conditional (around : Surroundings) (condition subject : Value) : Outcome :=
  let branch (keyword : String) : Outcome :=
    match Entries.get? around.schema keyword with
    | some schema => (around.run schema subject).settled
    | none => .nothing
  if (Entries.hasKey around.schema "then" || Entries.hasKey around.schema "else") ||
      around.draft.atLeast .draft2019 then
    let outcome := around.run condition subject
    if outcome.isValid then outcome.and (branch "then") else branch "else"
  else .nothing

def dependencies (around : Surroundings) (table : List (String × Value)) (subject : Value) : Outcome :=
  match subject with
  | .object members =>
    .all <| (table.filter fun entry => Entries.hasKey members entry.1).map fun (_, entry) =>
      match entry with
      | .array names => missing subject (.array names)
      | schema => (around.run schema subject).settled
  | _ => .nothing

/-! ## Keywords -/

/-- The outcome of one member of a schema, those aside that need the outcome of the others. -/
def keyword (around : Surroundings) (subject : Value) (name : String) (value : Value) : Outcome :=
  let draft := around.draft
  match name, value with
  | "$ref", .string text => (around.follow (.named text) subject).settled
  | "$dynamicRef", .string text =>
    if draft = .draft2020 then (around.follow (.named text) subject).settled else .nothing
  | "$recursiveRef", .string _ =>
    if draft = .draft2019 then (around.follow .recursive subject).settled else .nothing
  | "type", types =>
    .require ((typesOf types).any (hasType draft subject)) (.type subject (typesOf types))
  | "enum", .array choices => .require (choices.any subject.alike) (.choice subject value)
  | "const", expected =>
    if draft = .draft4 then .nothing
    else
      let same := match subject, expected with
        | .number a, .number b => a.isNear b
        | _, _ => subject.alike expected
      .require same (.constant expected)
  | "multipleOf", .number divisor =>
    match subject with
    | .number n => .require (n.isMultipleOf divisor) (.multiple subject divisor.toDouble)
    | _ => .nothing
  | "maximum", limit =>
    if draft = .draft4 ∧ Entries.get? around.schema "exclusiveMaximum" = some (.bool true) then
      limitNumber subject limit (fun a b => a.below b) .atOrAboveMaximum
    else limitNumber subject limit (fun a b => a.atMost b) .aboveMaximum
  | "minimum", limit =>
    if draft = .draft4 ∧ Entries.get? around.schema "exclusiveMinimum" = some (.bool true) then
      limitNumber subject limit (fun a b => b.below a) .atOrBelowMinimum
    else limitNumber subject limit (fun a b => b.atMost a) .belowMinimum
  | "exclusiveMaximum", limit =>
    if draft = .draft4 then .nothing
    else limitNumber subject limit (fun a b => a.below b) .atOrAboveMaximum
  | "exclusiveMinimum", limit =>
    if draft = .draft4 then .nothing
    else limitNumber subject limit (fun a b => b.below a) .atOrBelowMinimum
  | "maxLength", limit => limitCount subject limit (charCount? subject) (fun n m => n ≤ m) .tooLong
  | "minLength", limit => limitCount subject limit (charCount? subject) (fun n m => m ≤ n) .tooShort
  | "maxItems", limit => limitCount subject limit (itemCount? subject) (fun n m => n ≤ m) .tooManyItems
  | "minItems", limit => limitCount subject limit (itemCount? subject) (fun n m => m ≤ n) .tooFewItems
  | "maxProperties", limit =>
    limitCount subject limit (memberCount? subject) (fun n m => n ≤ m) .tooManyProperties
  | "minProperties", limit =>
    limitCount subject limit (memberCount? subject) (fun n m => m ≤ n) .tooFewProperties
  | "pattern", .string pattern =>
    match subject with
    | .string s => .require (matchesPattern pattern s) (.pattern subject pattern)
    | _ => .nothing
  | "format", .string format =>
    match subject with
    | .string s =>
      if around.setting.assertsFormats then
        .require (hasFormat around.setting draft format s) (.format subject format)
      else .nothing
    | _ => .nothing
  | "uniqueItems", .bool true =>
    match subject with
    | .array items => .require (Value.allDifferent items) (.repeatedItems subject)
    | _ => .nothing
  | "required", names => missing subject names
  | "properties", _ => if around.joinsMembers then .nothing else around.properties subject
  | "patternProperties", _ =>
    if around.joinsMembers then .nothing else around.patternProperties subject
  | "additionalProperties", rest =>
    if around.joinsMembers then around.additionalProperties rest subject
    else
      match subject with
      | .object members => ⟨[], Entries.keys members, []⟩
      | _ => .nothing
  | "propertyNames", schema =>
    if draft = .draft4 then .nothing else around.propertyNames schema subject
  | "prefixItems", .array schemas =>
    if draft = .draft2020 then around.itemsInPlace schemas subject else .nothing
  | "items", .array schemas =>
    if draft = .draft2020 then .nothing else around.itemsInPlace schemas subject
  | "items", schema =>
    let start := if draft = .draft2020 then around.placedItems "prefixItems" else 0
    around.itemsFrom start schema subject
  | "additionalItems", rest =>
    if draft = .draft2020 then .nothing else around.additionalItems rest subject
  | "contains", schema => if draft = .draft4 then .nothing else around.contains schema subject
  | "allOf", .array schemas => around.allOf schemas subject
  | "anyOf", .array schemas => around.anyOf schemas subject
  | "oneOf", .array schemas => around.oneOf schemas subject
  | "not", schema => .require (!(around.run schema subject).isValid) (.negated subject schema)
  | "if", condition =>
    if draft.atLeast .draft7 then around.conditional condition subject else .nothing
  | "dependencies", .object table => around.dependencies table subject
  | "dependentSchemas", .object table =>
    if draft.atLeast .draft2019 then around.dependencies table subject else .nothing
  | "dependentRequired", .object table =>
    if draft.atLeast .draft2019 then around.dependencies table subject else .nothing
  | "contentEncoding", _ =>
    if draft = .draft6 ∨ draft = .draft7 then contentOutcome around.schema subject else .nothing
  | "contentMediaType", _ =>
    if (draft = .draft6 ∨ draft = .draft7) ∧ ¬ Entries.hasKey around.schema "contentEncoding" then
      contentOutcome around.schema subject
    else .nothing
  | _, _ => .nothing

/-- The members that no other keyword looked at, against a schema. -/
def unevaluatedProperties (around : Surroundings) (seen : Outcome) (schema subject : Value) : Outcome :=
  match subject with
  | .object members =>
    let left := members.filter fun member => !seen.properties.contains member.1
    let wrong := left.filter fun member => !(around.run schema member.2).isValid
    { Outcome.require wrong.isEmpty (.unevaluatedProperties (wrong.map (·.1))) with
      properties := Entries.keys members }
  | _ => .nothing

/-- The items that no other keyword looked at, against a schema. -/
def unevaluatedItems (around : Surroundings) (seen : Outcome) (schema subject : Value) : Outcome :=
  match subject with
  | .array items =>
    let left := (items.zipIdx).filter fun (_, i) => !seen.items.contains i
    let wrong := left.filter fun (item, _) => !(around.run schema item).isValid
    { Outcome.require wrong.isEmpty (.unevaluatedItems (wrong.map (·.1))) with
      items := List.range items.length }
  | _ => .nothing

def outcome (around : Surroundings) (subject : Value) : Outcome :=
  let direct := around.schema.map fun (name, value) =>
    (name, value, around.keyword subject name value)
  let seen := Outcome.all (direct.map (·.2.2))
  .all <| direct.map fun (name, value, found) =>
    if around.draft.atLeast .draft2019 ∧ name = "unevaluatedProperties" then
      around.unevaluatedProperties seen value subject
    else if around.draft.atLeast .draft2019 ∧ name = "unevaluatedItems" then
      around.unevaluatedItems seen value subject
    else found

end Surroundings

/-! ## Schemas -/

/-- Holds a document against a schema, from the scope inside the schema, following references at most
so often as there is fuel. -/
def evaluate (setting : Setting) : Nat → Scope → Value → Value → Outcome
  | 0, _, _, _ => .nothing
  | fuel + 1, scope, schema, subject =>
    match schema with
    | .bool false => .violation (.falseSchema subject)
    | .object members =>
      let follow (reference : Reference) (subject : Value) : Outcome :=
        match scope.resolve? reference with
        | some (target, there) => evaluate setting fuel there target subject
        | none => .nothing
      let run (schema subject : Value) : Outcome :=
        evaluate setting fuel (scope.enter schema) schema subject
      let around : Surroundings := ⟨setting, scope.draft, members, run, follow⟩
      match scope.draft.readsBesideReference, Entries.get? members "$ref" with
      | false, some (.string text) => follow (.named text) subject
      | _, _ => around.outcome subject
    | _ => .nothing

mutual
/-- How deeply a document is nested. -/
def depth : Value → Nat
  | .array items => depthOfItems items + 1
  | .object members => depthOfMembers members + 1
  | _ => 0

/-- How deeply a list of documents is nested. -/
def depthOfItems : List Value → Nat
  | [] => 0
  | item :: items => max (depth item) (depthOfItems items)

def depthOfMembers : List (String × Value) → Nat
  | [] => 0
  | (_, value) :: members => max (depth value) (depthOfMembers members)
end

/-- Fuel for a document and a schema. A chain of schemas that does not go into the document passes no
schema twice after the same resources, and no more resources are passed than there are schemas. -/
def fuelFor (schema subject : Value) : Nat :=
  let schemas := schema.size + Standard.size + 2
  schemas * schemas * schemas * (depth subject + 2)

def violations (setting : Setting) (draft : Draft) (schema subject : Value) : List Violation :=
  (evaluate setting (fuelFor schema subject) (Scope.ofRoot draft schema) schema subject).violations

end Schemata.JsonSchema
