import Schemata.Json.Value

/-!
# Custom keywords

A custom keyword is an abbreviation: where a schema has the member, the member is taken out and its
expansion is added to the `allOf` of the schema. The expansion comes from a template, in which
`"$value"` stands for the value of the member, or from a function.
-/

namespace Schemata

open Json (Value)

def valuePlaceholder : String := "$value"

/-- The members whose values are data and not schemas. -/
def dataKeys : List String := ["const", "enum", "examples", "default"]

def reservedKeywords : List String := [
  "$id", "$schema", "$ref", "$defs", "$anchor", "$dynamicRef", "$dynamicAnchor", "$comment",
  "$vocabulary", "$patch", "definitions", "type", "enum", "const", "multipleOf", "maximum",
  "exclusiveMaximum", "minimum", "exclusiveMinimum", "maxLength", "minLength", "pattern",
  "maxItems", "minItems", "uniqueItems", "maxContains", "minContains", "maxProperties",
  "minProperties", "required", "dependentRequired", "allOf", "anyOf", "oneOf", "not", "if",
  "then", "else", "dependentSchemas", "prefixItems", "items", "contains", "properties",
  "patternProperties", "additionalProperties", "propertyNames", "unevaluatedItems",
  "unevaluatedProperties", "format", "title", "description", "default", "deprecated",
  "readOnly", "writeOnly", "examples", "contentEncoding", "contentMediaType", "contentSchema"]

/-- A custom keyword. -/
structure Keyword where
  /-- The member that it stands for. -/
  name : String
  /-- The schema of its values. -/
  metaSchema : Option Value
  /-- The template of its expansions. -/
  template : Option Value
  /-- The function of its expansions. -/
  expander : Option (Value → Value)

namespace Keyword

/-- A keyword of a document: its name, and perhaps a schema of values and a template. -/
def ofDocument? : Value → Option Keyword
  | .object members =>
    let given (key : String) : Option Value := (Entries.get? members key).filter (· ≠ .null)
    match Entries.get? members "keyword" with
    | some (.string name) => some ⟨name, given "metaSchema", given "template", none⟩
    | _ => none
  | _ => none

/-- A keyword as a document; a function is left out. -/
def toDocument (keyword : Keyword) : Value :=
  let given (key : String) (value : Option Value) : List (String × Value) :=
    (value.map fun v => (key, v)).toList
  Value.ofMembers <| ("keyword", .string keyword.name) ::
    (given "metaSchema" keyword.metaSchema ++ given "template" keyword.template)

/-! ## Expansion -/

mutual
/-- A template with the value in all its places. -/
def substitute (value : Value) : Value → Value
  | .string s => if s = valuePlaceholder then value else .string s
  | .array items => .array (substituteItems value items)
  | .object members => .object (substituteMembers value members)
  | other => other

/-- A list of templates with the value in all their places. -/
def substituteItems (value : Value) : List Value → List Value
  | [] => []
  | item :: items => substitute value item :: substituteItems value items

def substituteMembers (value : Value) : List (String × Value) → List (String × Value)
  | [] => []
  | (key, member) :: members => (key, substitute value member) :: substituteMembers value members
end

/-- The schema that a value of the keyword stands for. -/
def expand (keyword : Keyword) (value : Value) : Value :=
  match keyword.expander, keyword.template with
  | some expander, _ => expander value
  | none, some template => substitute value template
  | none, none => .bool true

/-- Members with a schema more in their `allOf`. -/
def pushAllOf (members : List (String × Value)) (expansion : Value) : List (String × Value) :=
  match Entries.get? members "allOf" with
  | some (.array branches) => Entries.put members "allOf" (.array (branches ++ [expansion]))
  | _ => Entries.put members "allOf" (.array [expansion])

def expandHere (keyword : Keyword) (members : List (String × Value)) : List (String × Value) :=
  match Entries.get? members keyword.name with
  | some value => pushAllOf (Entries.without members keyword.name) (keyword.expand value)
  | none => members

mutual
/-- A document with the keyword expanded in all places, inner ones first. -/
def expandIn (keyword : Keyword) : Value → Value
  | .object members => .object (expandHere keyword (expandMembers keyword members))
  | .array items => .array (expandItems keyword items)
  | other => other

def expandItems (keyword : Keyword) : List Value → List Value
  | [] => []
  | item :: items => expandIn keyword item :: expandItems keyword items

/-- Members with the keyword expanded inside them; data is left alone. -/
def expandMembers (keyword : Keyword) : List (String × Value) → List (String × Value)
  | [] => []
  | (key, member) :: members =>
    (key, if dataKeys.contains key then member else expandIn keyword member)
      :: expandMembers keyword members
end

/-! ## Occurrences -/

mutual
/-- The values of a keyword in a document, in order; values inside such values do not count. -/
def occurrences (name : String) : Value → List Value
  | .object members => occurrencesInMembers name members
  | .array items => occurrencesInItems name items
  | _ => []

/-- The values of a keyword in a list of documents. -/
def occurrencesInItems (name : String) : List Value → List Value
  | [] => []
  | item :: items => occurrences name item ++ occurrencesInItems name items

/-- The values of a keyword among members and inside them. -/
def occurrencesInMembers (name : String) : List (String × Value) → List Value
  | [] => []
  | (key, member) :: members =>
    (if key = name then [member]
      else if dataKeys.contains key then []
      else occurrences name member) ++ occurrencesInMembers name members
end

end Keyword

end Schemata
