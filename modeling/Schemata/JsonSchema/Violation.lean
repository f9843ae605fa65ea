import Schemata.Json.Printer
import Schemata.Number.Shortest

/-!
# Violations

In which ways a document can fail to satisfy a schema. `Violation.message` words them; documents are
shown as compact JSON.
-/

namespace Schemata.JsonSchema

open Json (Value)

/-- A way in which a document fails to satisfy a schema. -/
inductive Violation where
  /-- The document has none of the types. -/
  | type (subject : Value) (types : List String)
  /-- A member is missing. -/
  | required (name : String)
  /-- The text has not the format. -/
  | format (subject : Value) (name : String)
  /-- The document is none of the choices. -/
  | choice (subject choices : Value)
  /-- The document is not the constant. -/
  | constant (expected : Value)
  /-- The number is too small. -/
  | belowMinimum (subject limit : Value)
  /-- The number is too large. -/
  | aboveMaximum (subject limit : Value)
  /-- The number is too small, or the limit itself. -/
  | atOrBelowMinimum (subject limit : Value)
  /-- The number is too large, or the limit itself. -/
  | atOrAboveMaximum (subject limit : Value)
  /-- The number is no multiple. -/
  | multiple (subject : Value) (divisor : Binary64)
  /-- The text does not match. -/
  | pattern (subject : Value) (pattern : String)
  /-- The text is too short. -/
  | tooShort (subject : Value) (limit : Nat)
  /-- The text is too long. -/
  | tooLong (subject : Value) (limit : Nat)
  /-- The list is too short. -/
  | tooFewItems (subject : Value) (limit : Nat)
  /-- The list is too long. -/
  | tooManyItems (subject : Value) (limit : Nat)
  /-- The object has too few members. -/
  | tooFewProperties (subject : Value) (limit : Nat)
  /-- The object has too many members. -/
  | tooManyProperties (subject : Value) (limit : Nat)
  /-- The list holds something twice. -/
  | repeatedItems (subject : Value)
  /-- Not as many items satisfy a schema as should. -/
  | contains (subject : Value)
  /-- Nothing is allowed here. -/
  | falseSchema (subject : Value)
  /-- The document satisfies a schema that it should not. -/
  | negated (subject schema : Value)
  /-- The list has items behind the last that is allowed. -/
  | additionalItems (unexpected : List Value)
  /-- The object has members that are not allowed. -/
  | additionalProperties (names : List String)
  /-- The list has items that no schema looked at. -/
  | unevaluatedItems (unexpected : List Value)
  /-- The object has members that no schema looked at. -/
  | unevaluatedProperties (names : List String)
  /-- The document satisfies none of the schemas. -/
  | noneOf (subject : Value) (keyword : String)
  /-- The document satisfies several of the schemas. -/
  | severalOf (subject : Value)
  /-- The text is not encoded so. -/
  | encoding (subject : Value) (name : String)
  /-- The text is not of the media type. -/
  | mediaType (subject : Value) (name : String)

namespace Violation

def counted (count : Nat) (singular plural : String) : String :=
  toString count ++ " " ++ if count = 1 then singular else plural

/-- What was not expected, in parentheses. -/
def unexpected (shown : List String) : String :=
  "(" ++ String.intercalate ", " shown ++
    (if shown.length = 1 then " was unexpected)" else " were unexpected)")

def quoteName (name : String) : String := "'" ++ name ++ "'"

/-- The wording of a violation. -/
def message : Violation → String
  | type subject types =>
    let shown := types.map fun name => "\"" ++ name ++ "\""
    subject.compact ++ (if types.length = 1 then " is not of type " else " is not of types ") ++
      String.intercalate ", " shown
  | required name => Json.quote name ++ " is a required property"
  | format subject name => subject.compact ++ " is not a \"" ++ name ++ "\""
  | choice subject choices => subject.compact ++ " is not one of " ++ choices.compact
  | constant expected => expected.compact ++ " was expected"
  | belowMinimum subject limit =>
    subject.compact ++ " is less than the minimum of " ++ limit.compact
  | aboveMaximum subject limit =>
    subject.compact ++ " is greater than the maximum of " ++ limit.compact
  | atOrBelowMinimum subject limit =>
    subject.compact ++ " is less than or equal to the minimum of " ++ limit.compact
  | atOrAboveMaximum subject limit =>
    subject.compact ++ " is greater than or equal to the maximum of " ++ limit.compact
  | multiple subject divisor => subject.compact ++ " is not a multiple of " ++ divisor.positional
  | pattern subject text => subject.compact ++ " does not match \"" ++ text ++ "\""
  | tooShort subject limit =>
    subject.compact ++ " is shorter than " ++ counted limit "character" "characters"
  | tooLong subject limit =>
    subject.compact ++ " is longer than " ++ counted limit "character" "characters"
  | tooFewItems subject limit => subject.compact ++ " has less than " ++ counted limit "item" "items"
  | tooManyItems subject limit => subject.compact ++ " has more than " ++ counted limit "item" "items"
  | tooFewProperties subject limit =>
    subject.compact ++ " has less than " ++ counted limit "property" "properties"
  | tooManyProperties subject limit =>
    subject.compact ++ " has more than " ++ counted limit "property" "properties"
  | repeatedItems subject => subject.compact ++ " has non-unique elements"
  | contains subject => "None of " ++ subject.compact ++ " are valid under the given schema"
  | falseSchema subject => "False schema does not allow " ++ subject.compact
  | negated subject schema => schema.compact ++ " is not allowed for " ++ subject.compact
  | additionalItems items =>
    "Additional items are not allowed " ++ unexpected (items.map Value.compact)
  | additionalProperties names =>
    "Additional properties are not allowed " ++ unexpected (names.map quoteName)
  | unevaluatedItems items =>
    "Unevaluated items are not allowed " ++ unexpected (items.map fun v => quoteName v.compact)
  | unevaluatedProperties names =>
    "Unevaluated properties are not allowed " ++ unexpected (names.map quoteName)
  | noneOf subject keyword =>
    subject.compact ++ " is not valid under any of the schemas listed in the '" ++ keyword ++
      "' keyword"
  | severalOf subject =>
    subject.compact ++ " is valid under more than one of the schemas listed in the 'oneOf' keyword"
  | encoding subject name =>
    subject.compact ++ " is not compliant with \"" ++ name ++ "\" content encoding"
  | mediaType subject name =>
    subject.compact ++ " is not compliant with \"" ++ name ++ "\" media type"

end Violation

end Schemata.JsonSchema
