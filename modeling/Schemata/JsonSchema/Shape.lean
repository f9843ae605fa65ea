import Schemata.JsonSchema.Draft
import Schemata.JsonSchema.UriReference
import Schemata.Json.Likeness
import Schemata.Pattern.EcmaNode

/-!
# Shapes of schemas

What the members of a schema have to look like. `Shape.ofKeyword?` is the table of an edition, and
`Shape.schemaOk` holds a whole schema against it, with the schemas inside it.
-/

namespace Schemata.JsonSchema

open Json (Value)

/-- What the value of a member has to look like. -/
inductive Shape where
  /-- A schema. -/
  | schema
  /-- A boolean or a schema. -/
  | schemaOrBool
  /-- A list of schemas, not empty. -/
  | schemas
  /-- A schema or a list of schemas. -/
  | schemaOrSchemas
  /-- Schemas by name. -/
  | schemaMap
  /-- Schemas or lists of names, by name. -/
  | dependencyMap
  /-- Something without schemas inside. -/
  | leaf (test : Value → Bool)

namespace Shape

/-! ## Values without schemas inside -/

def isText : Value → Bool
  | .string _ => true
  | _ => false

def isTextWith (test : String → Bool) : Value → Bool
  | .string s => test s
  | _ => false

def isBool : Value → Bool
  | .bool _ => true
  | _ => false

def isNumber : Value → Bool
  | .number _ => true
  | _ => false

/-- A number above zero. -/
def isPositive : Value → Bool
  | .number n => 0 < n.ratio.1
  | _ => false

/-- A whole number from zero on; in the first edition `1.0` is not whole. -/
def isCount (draft : Draft) : Value → Bool
  | .number (.integer i) => 0 ≤ i
  | .number n => draft ≠ .draft4 && n.natural?.isSome
  | _ => false

def isList : Value → Bool
  | .array _ => true
  | _ => false

def isTextList : Value → Bool
  | .array items => items.all isText && Value.allDifferent items
  | _ => false

def isChoiceList : Value → Bool
  | .array items => !items.isEmpty && Value.allDifferent items
  | _ => false

def typeNames : List String := ["array", "boolean", "integer", "null", "number", "object", "string"]

def isTypeName : Value → Bool := isTextWith typeNames.contains

def isTypes : Value → Bool
  | .array items => !items.isEmpty && items.all isTypeName && Value.allDifferent items
  | other => isTypeName other

/-- An object whose values satisfy a test. -/
def isMapOf (test : Value → Bool) : Value → Bool
  | .object members => members.all fun member => test member.2
  | _ => false

/-- A name that a reference can point to. -/
def isAnchor (draft : Draft) : Value → Bool :=
  isTextWith fun s =>
    match s.toList with
    | [] => false
    | c :: rest =>
      let start := c.isAlpha || (draft = .draft2020 && c = '_')
      let more (c : Char) : Bool :=
        c.isAlphanum || c = '-' || c = '.' || c = '_' || (draft = .draft2019 && c = ':')
      start && rest.all more

/-- An identifier without a fragment. -/
def isIdentity : Value → Bool :=
  isTextWith fun s => !(s.toList.dropLast).contains '#'

/-- A reference; the editions that assert formats want it well formed. -/
def isReference (draft : Draft) : Value → Bool :=
  if draft.assertsFormats ∧ draft ≠ .draft4 then
    isTextWith (UriReference.isReference false false)
  else isText

/-- A pattern; the editions that assert formats want it to have a meaning. -/
def isPattern (draft : Draft) : Value → Bool :=
  if draft.assertsFormats then isTextWith fun s => (Pattern.EcmaNode.ofText? s).isSome else isText

/-! ## Tables -/

/-- The shapes that all editions share. -/
def ofCommonKeyword? (draft : Draft) : String → Option Shape
  | "$schema" => some (.leaf isText)
  | "title" => some (.leaf isText)
  | "description" => some (.leaf isText)
  | "maximum" => some (.leaf isNumber)
  | "minimum" => some (.leaf isNumber)
  | "multipleOf" => some (.leaf isPositive)
  | "maxLength" => some (.leaf (isCount draft))
  | "minLength" => some (.leaf (isCount draft))
  | "maxItems" => some (.leaf (isCount draft))
  | "minItems" => some (.leaf (isCount draft))
  | "maxProperties" => some (.leaf (isCount draft))
  | "minProperties" => some (.leaf (isCount draft))
  | "pattern" => some (.leaf (isPattern draft))
  | "uniqueItems" => some (.leaf isBool)
  | "type" => some (.leaf isTypes)
  | "format" => some (.leaf isText)
  | "definitions" => some .schemaMap
  | "properties" => some .schemaMap
  | "patternProperties" => some .schemaMap
  | "dependencies" => some .dependencyMap
  | "allOf" => some .schemas
  | "anyOf" => some .schemas
  | "oneOf" => some .schemas
  | "not" => some .schema
  | _ => none

/-- The shapes of the first edition that others do not share. -/
def ofFirstKeyword? : String → Option Shape
  | "id" => some (.leaf isText)
  | "exclusiveMaximum" => some (.leaf isBool)
  | "exclusiveMinimum" => some (.leaf isBool)
  | "additionalItems" => some .schemaOrBool
  | "additionalProperties" => some .schemaOrBool
  | "items" => some .schemaOrSchemas
  | "required" => some (.leaf fun v => isTextList v && isChoiceList v)
  | "enum" => some (.leaf isChoiceList)
  | _ => none

/-- The shapes that all later editions share. -/
def ofLaterKeyword? (draft : Draft) : String → Option Shape
  | "$ref" => some (.leaf (isReference draft))
  | "exclusiveMaximum" => some (.leaf isNumber)
  | "exclusiveMinimum" => some (.leaf isNumber)
  | "required" => some (.leaf isTextList)
  | "examples" => some (.leaf isList)
  | "contains" => some .schema
  | "additionalProperties" => some .schema
  | "propertyNames" => some .schema
  | "enum" => some (.leaf (if draft = .draft6 then isChoiceList else isList))
  | "$id" => some (.leaf (if draft.atLeast .draft2019 then isIdentity else isReference draft))
  | "items" => some (if draft = .draft2020 then .schema else .schemaOrSchemas)
  | "additionalItems" => if draft = .draft2020 then none else some .schema
  | _ => none

def ofThirdKeyword? : String → Option Shape
  | "$comment" => some (.leaf isText)
  | "readOnly" => some (.leaf isBool)
  | "writeOnly" => some (.leaf isBool)
  | "contentMediaType" => some (.leaf isText)
  | "contentEncoding" => some (.leaf isText)
  | "if" => some .schema
  | "then" => some .schema
  | "else" => some .schema
  | _ => none

def ofFourthKeyword? (draft : Draft) : String → Option Shape
  | "$anchor" => some (.leaf (isAnchor draft))
  | "$defs" => some .schemaMap
  | "$vocabulary" => some (.leaf (isMapOf isBool))
  | "$recursiveRef" => some (.leaf isText)
  | "$recursiveAnchor" =>
    some (.leaf (if draft = .draft2020 then isAnchor draft else isBool))
  | "$dynamicRef" => if draft = .draft2020 then some (.leaf isText) else none
  | "$dynamicAnchor" => if draft = .draft2020 then some (.leaf (isAnchor draft)) else none
  | "prefixItems" => if draft = .draft2020 then some .schemas else none
  | "unevaluatedItems" => some .schema
  | "unevaluatedProperties" => some .schema
  | "dependentSchemas" => some .schemaMap
  | "dependentRequired" => some (.leaf (isMapOf isTextList))
  | "maxContains" => some (.leaf (isCount draft))
  | "minContains" => some (.leaf (isCount draft))
  | "contentSchema" => some .schema
  | "deprecated" => some (.leaf isBool)
  | _ => none

/-- The shape that an edition wants of a member; none for members that it does not know. -/
def ofKeyword? (draft : Draft) (keyword : String) : Option Shape :=
  ofCommonKeyword? draft keyword <|>
    if draft = .draft4 then ofFirstKeyword? keyword
    else
      ofLaterKeyword? draft keyword <|>
        (if draft.atLeast .draft7 then ofThirdKeyword? keyword else none) <|>
        (if draft.atLeast .draft2019 then ofFourthKeyword? draft keyword else none)

/-- What an edition wants beside the shapes of single members. -/
def companionsOk (draft : Draft) (members : List (String × Value)) : Bool :=
  draft ≠ .draft4 ||
    ((!Entries.hasKey members "exclusiveMaximum" || Entries.hasKey members "maximum") &&
      (!Entries.hasKey members "exclusiveMinimum" || Entries.hasKey members "minimum"))

/-! ## Schemas -/

mutual
/-- Whether a value has a shape, with all schemas inside it. -/
def valueOk (draft : Draft) (shape : Shape) : Value → Bool
  | .object members =>
    match shape with
    | .leaf test => test (.object members)
    | .schema | .schemaOrBool | .schemaOrSchemas =>
      companionsOk draft members && membersOk draft members
    | .schemas => false
    | .schemaMap => mapOk draft members
    | .dependencyMap => dependenciesOk draft members
  | .array items =>
    match shape with
    | .leaf test => test (.array items)
    | .schemas | .schemaOrSchemas => !items.isEmpty && itemsOk draft items
    | _ => false
  | .bool value =>
    match shape with
    | .leaf test => test (.bool value)
    | .schemaOrBool => true
    | .schema | .schemaOrSchemas => draft ≠ .draft4
    | _ => false
  | other =>
    match shape with
    | .leaf test => test other
    | _ => false

def membersOk (draft : Draft) : List (String × Value) → Bool
  | [] => true
  | (keyword, value) :: members =>
    (match ofKeyword? draft keyword with
      | none => true
      | some shape => valueOk draft shape value) && membersOk draft members

def itemsOk (draft : Draft) : List Value → Bool
  | [] => true
  | item :: items => valueOk draft .schema item && itemsOk draft items

def mapOk (draft : Draft) : List (String × Value) → Bool
  | [] => true
  | (_, value) :: members => valueOk draft .schema value && mapOk draft members

/-- Whether all values of an object are schemas or lists of names. -/
def dependenciesOk (draft : Draft) : List (String × Value) → Bool
  | [] => true
  | (_, value) :: members =>
    (isTextList value || valueOk draft .schema value) && dependenciesOk draft members
end

def schemaOk (draft : Draft) (document : Value) : Bool := valueOk draft .schema document

end Shape

end Schemata.JsonSchema
