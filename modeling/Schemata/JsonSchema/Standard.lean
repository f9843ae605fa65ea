import Schemata.Json.Value

/-!
# Standard schemas

The schemas of schemas, of each edition, which references may point to without their being part of a
document. From 2019 on an edition has one schema that puts those of its vocabularies together. What
only describes is left out: titles, comments and defaults.
-/

namespace Schemata.JsonSchema.Standard

open Json (Value)

/-! ## Parts -/

def typed (name : String) : Value := .ofMembers [("type", .string name)]

def schemaTypes : Value := .array [.string "object", .string "boolean"]

def textWith (keyword value : String) : Value :=
  .ofMembers [("type", .string "string"), (keyword, .string value)]

def reference (text : String) : Value := .ofMembers [("$ref", .string text)]

def anyOf (schemas : List Value) : Value := .ofMembers [("anyOf", .array schemas)]

def arrayOf (items : Value) (more : List (String × Value)) : Value :=
  .ofMembers ([("type", .string "array"), ("items", items)] ++ more)

def objectOf (value : Value) : Value :=
  .ofMembers [("type", .string "object"), ("additionalProperties", value)]

def patternsOf (value : Value) : Value :=
  .ofMembers [("type", .string "object"), ("additionalProperties", value),
    ("propertyNames", .ofMembers [("format", .string "regex")])]

def schemaArray (schema : Value) : Value := arrayOf schema [("minItems", .ofInt 1)]

def count : Value := .ofMembers [("type", .string "integer"), ("minimum", .ofInt 0)]

def simpleTypes : Value :=
  .ofMembers [("enum", .array (["array", "boolean", "integer", "null", "number", "object", "string"].map
    .string))]

def differentTexts : Value := arrayOf (typed "string") [("uniqueItems", .bool true)]

def types (place : String) : Value :=
  anyOf [reference place,
    arrayOf (reference place) [("minItems", .ofInt 1), ("uniqueItems", .bool true)]]

def each (names : List String) (shape : Value) : List (String × Value) := names.map (·, shape)

/-- The members with limits on counts; zero is the limit without the member for the smaller ones. -/
def counts (largest least : String) : List (String × Value) :=
  each ["maxLength", "maxItems", "maxProperties"] (reference largest) ++
    each ["minLength", "minItems", "minProperties"] (reference least)

/-! ## Editions of one schema -/

def draft4 : Value :=
  .ofMembers [
    ("id", .string "http://json-schema.org/draft-04/schema#"),
    ("$schema", .string "http://json-schema.org/draft-04/schema#"),
    ("type", .string "object"),
    ("definitions", .ofMembers [
      ("schemaArray", schemaArray (reference "#")),
      ("positiveInteger", count),
      ("positiveIntegerDefault0", .ofMembers [
        ("allOf", .array [reference "#/definitions/positiveInteger", .ofMembers []])]),
      ("simpleTypes", simpleTypes),
      ("stringArray", arrayOf (typed "string")
        [("minItems", .ofInt 1), ("uniqueItems", .bool true)])]),
    ("dependencies", .ofMembers [
      ("exclusiveMaximum", .array [.string "maximum"]),
      ("exclusiveMinimum", .array [.string "minimum"])]),
    ("properties", .ofMembers <|
      each ["id", "$schema", "title", "description", "format"] (typed "string") ++
      each ["maximum", "minimum"] (typed "number") ++
      each ["exclusiveMaximum", "exclusiveMinimum", "uniqueItems"] (typed "boolean") ++
      each ["additionalItems", "additionalProperties"] (anyOf [typed "boolean", reference "#"]) ++
      each ["definitions", "properties", "patternProperties"] (objectOf (reference "#")) ++
      each ["allOf", "anyOf", "oneOf"] (reference "#/definitions/schemaArray") ++
      counts "#/definitions/positiveInteger" "#/definitions/positiveIntegerDefault0" ++
      [("default", .ofMembers []),
       ("multipleOf", .ofMembers [("type", .string "number"), ("minimum", .ofInt 0),
         ("exclusiveMinimum", .bool true)]),
       ("pattern", textWith "format" "regex"),
       ("items", anyOf [reference "#", reference "#/definitions/schemaArray"]),
       ("required", reference "#/definitions/stringArray"),
       ("dependencies", objectOf (anyOf [reference "#", reference "#/definitions/stringArray"])),
       ("enum", .ofMembers [("type", .string "array"), ("minItems", .ofInt 1),
         ("uniqueItems", .bool true)]),
       ("type", types "#/definitions/simpleTypes"),
       ("not", reference "#")])]

/-- What the schemas of the second and the third edition share; `any` is the schema of any value. -/
def laterDraft (id : String) (any : Value) (more : List (String × Value)) : Value :=
  .ofMembers [
    ("$id", .string id),
    ("$schema", .string id),
    ("type", schemaTypes),
    ("definitions", .ofMembers [
      ("schemaArray", schemaArray (reference "#")),
      ("nonNegativeInteger", count),
      ("nonNegativeIntegerDefault0", .ofMembers [
        ("allOf", .array [reference "#/definitions/nonNegativeInteger", .ofMembers []])]),
      ("simpleTypes", simpleTypes),
      ("stringArray", differentTexts)]),
    ("properties", .ofMembers <|
      each ["$id", "$ref"] (textWith "format" "uri-reference") ++
      each ["title", "description", "format"] (typed "string") ++
      each ["maximum", "minimum", "exclusiveMaximum", "exclusiveMinimum"] (typed "number") ++
      each ["additionalItems", "contains", "additionalProperties", "propertyNames", "not"]
        (reference "#") ++
      each ["definitions", "properties"] (objectOf (reference "#")) ++
      each ["allOf", "anyOf", "oneOf"] (reference "#/definitions/schemaArray") ++
      each ["default", "const"] any ++
      counts "#/definitions/nonNegativeInteger" "#/definitions/nonNegativeIntegerDefault0" ++
      [("$schema", textWith "format" "uri"),
       ("examples", arrayOf any []),
       ("multipleOf", .ofMembers [("type", .string "number"), ("exclusiveMinimum", .ofInt 0)]),
       ("pattern", textWith "format" "regex"),
       ("items", anyOf [reference "#", reference "#/definitions/schemaArray"]),
       ("uniqueItems", typed "boolean"),
       ("required", reference "#/definitions/stringArray"),
       ("dependencies", objectOf (anyOf [reference "#", reference "#/definitions/stringArray"])),
       ("type", types "#/definitions/simpleTypes")] ++ more)]

def draft6 : Value :=
  laterDraft "http://json-schema.org/draft-06/schema#" (.ofMembers []) [
    ("patternProperties", objectOf (reference "#")),
    ("enum", .ofMembers [("type", .string "array"), ("minItems", .ofInt 1),
      ("uniqueItems", .bool true)])]

def draft7 : Value :=
  laterDraft "http://json-schema.org/draft-07/schema#" (.bool true) <|
    each ["$comment", "contentMediaType", "contentEncoding"] (typed "string") ++
    each ["readOnly", "writeOnly"] (typed "boolean") ++
    each ["if", "then", "else"] (reference "#") ++
    [("patternProperties", patternsOf (reference "#")), ("enum", arrayOf (.bool true) [])]

/-! ## Editions of several schemas -/

/-- What differs between the schemas of the two last editions. -/
structure Edition where
  /-- What the identifiers of its schemas start with. -/
  address : String
  /-- What marks a schema that others extend. -/
  mark : String × Value
  /-- The schema of schemas, from within a vocabulary. -/
  schema : Value

def Edition.document (edition : Edition) (name : String) (members : List (String × Value)) : Value :=
  .ofMembers ([("$id", .string (edition.address ++ name)),
    ("$schema", .string (edition.address ++ "schema")), edition.mark, ("type", schemaTypes)] ++ members)

/-- The schema that puts vocabularies together. -/
def Edition.whole (edition : Edition) (vocabularies : List String) (more : List (String × Value)) :
    Value :=
  edition.document "schema" [
    ("allOf", .array (vocabularies.map reference)),
    ("properties", .ofMembers ([
      ("definitions", objectOf edition.schema),
      ("dependencies", objectOf (anyOf [edition.schema,
        reference "meta/validation#/$defs/stringArray"]))] ++ more))]

def Edition.applicator (edition : Edition) (more : List (String × Value)) : Value :=
  edition.document "meta/applicator" [
    ("properties", .ofMembers <|
      each ["contains", "additionalProperties", "propertyNames", "if", "then", "else", "not"]
        edition.schema ++
      each ["properties", "dependentSchemas"] (objectOf edition.schema) ++
      each ["allOf", "anyOf", "oneOf"] (reference "#/$defs/schemaArray") ++
      [("patternProperties", patternsOf edition.schema)] ++ more),
    ("$defs", .ofMembers [("schemaArray", schemaArray edition.schema)])]

def Edition.validation (edition : Edition) : Value :=
  edition.document "meta/validation" [
    ("properties", .ofMembers <|
      each ["maximum", "minimum", "exclusiveMaximum", "exclusiveMinimum"] (typed "number") ++
      each ["maxContains", "minContains"] (reference "#/$defs/nonNegativeInteger") ++
      counts "#/$defs/nonNegativeInteger" "#/$defs/nonNegativeIntegerDefault0" ++
      [("type", types "#/$defs/simpleTypes"),
       ("const", .bool true),
       ("enum", arrayOf (.bool true) []),
       ("multipleOf", .ofMembers [("type", .string "number"), ("exclusiveMinimum", .ofInt 0)]),
       ("pattern", textWith "format" "regex"),
       ("uniqueItems", typed "boolean"),
       ("required", reference "#/$defs/stringArray"),
       ("dependentRequired", objectOf (reference "#/$defs/stringArray"))]),
    ("$defs", .ofMembers [
      ("nonNegativeInteger", count),
      ("nonNegativeIntegerDefault0", reference "#/$defs/nonNegativeInteger"),
      ("simpleTypes", simpleTypes),
      ("stringArray", differentTexts)])]

def Edition.metadata (edition : Edition) : Value :=
  edition.document "meta/meta-data" [
    ("properties", .ofMembers <|
      each ["title", "description"] (typed "string") ++
      each ["deprecated", "readOnly", "writeOnly"] (typed "boolean") ++
      [("default", .bool true), ("examples", arrayOf (.bool true) [])])]

def Edition.format (edition : Edition) (name : String) : Value :=
  edition.document name [("properties", .ofMembers [("format", typed "string")])]

def Edition.content (edition : Edition) : Value :=
  edition.document "meta/content" [
    ("properties", .ofMembers <|
      each ["contentMediaType", "contentEncoding"] (typed "string") ++
      [("contentSchema", edition.schema)])]

def draft2019 : List Value :=
  let edition : Edition := ⟨"https://json-schema.org/draft/2019-09/", ("$recursiveAnchor", .bool true),
    .ofMembers [("$recursiveRef", .string "#")]⟩
  [edition.whole ["meta/core", "meta/applicator", "meta/validation", "meta/meta-data", "meta/format",
      "meta/content"] [],
   edition.document "meta/core" [
     ("properties", .ofMembers <|
       each ["$ref", "$recursiveRef"] (textWith "format" "uri-reference") ++
       [("$id", .ofMembers [("type", .string "string"), ("format", .string "uri-reference"),
          ("pattern", .string "^[^#]*#?$")]),
        ("$schema", textWith "format" "uri"),
        ("$anchor", textWith "pattern" "^[A-Za-z][-A-Za-z0-9.:_]*$"),
        ("$recursiveAnchor", typed "boolean"),
        ("$vocabulary", .ofMembers [("type", .string "object"),
          ("propertyNames", textWith "format" "uri"), ("additionalProperties", typed "boolean")]),
        ("$comment", typed "string"),
        ("$defs", objectOf edition.schema)])],
   edition.applicator <|
     each ["additionalItems", "unevaluatedItems", "unevaluatedProperties"] edition.schema ++
     [("items", anyOf [edition.schema, reference "#/$defs/schemaArray"])],
   edition.validation, edition.metadata, edition.format "meta/format", edition.content]

def draft2020 : List Value :=
  let edition : Edition := ⟨"https://json-schema.org/draft/2020-12/",
    ("$dynamicAnchor", .string "meta"), .ofMembers [("$dynamicRef", .string "#meta")]⟩
  [edition.whole ["meta/core", "meta/applicator", "meta/unevaluated", "meta/validation",
      "meta/meta-data", "meta/format-annotation", "meta/content"] [
     ("$recursiveAnchor", reference "meta/core#/$defs/anchorString"),
     ("$recursiveRef", reference "meta/core#/$defs/uriReferenceString")],
   edition.document "meta/core" [
     ("properties", .ofMembers <|
       each ["$ref", "$dynamicRef"] (reference "#/$defs/uriReferenceString") ++
       each ["$anchor", "$dynamicAnchor"] (reference "#/$defs/anchorString") ++
       [("$id", .ofMembers [("$ref", .string "#/$defs/uriReferenceString"),
          ("pattern", .string "^[^#]*#?$")]),
        ("$schema", reference "#/$defs/uriString"),
        ("$vocabulary", .ofMembers [("type", .string "object"),
          ("propertyNames", reference "#/$defs/uriString"),
          ("additionalProperties", typed "boolean")]),
        ("$comment", typed "string"),
        ("$defs", objectOf edition.schema)]),
     ("$defs", .ofMembers [
       ("anchorString", textWith "pattern" "^[A-Za-z_][-A-Za-z0-9._]*$"),
       ("uriString", textWith "format" "uri"),
       ("uriReferenceString", textWith "format" "uri-reference")])],
   edition.applicator [
     ("items", edition.schema), ("prefixItems", reference "#/$defs/schemaArray")],
   edition.document "meta/unevaluated" [
     ("properties", .ofMembers (each ["unevaluatedItems", "unevaluatedProperties"] edition.schema))],
   edition.validation, edition.metadata, edition.format "meta/format-annotation",
   edition.format "meta/format-assertion", edition.content]

/-- All standard schemas. -/
def documents : List Value := [draft4, draft6, draft7] ++ draft2019 ++ draft2020

/-- No fewer than the values in the standard schemas, of which there are 980. -/
def size : Nat := 1000

end Schemata.JsonSchema.Standard
