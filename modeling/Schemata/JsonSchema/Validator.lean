import Schemata.JsonSchema.Compilation
import Schemata.JsonSchema.Evaluation
import Schemata.Format.Guarded

/-!
# Validators

A schema that was found usable, with the formats that were installed at that time. Formats installed
later do not change it.
-/

namespace Schemata.JsonSchema

open Json (Value)
open Schemata.Format (GuardedFormat)

/-- A usable schema, with all that evaluation depends on. -/
structure Validator where
  /-- The schema. -/
  schema : Value
  /-- Its edition. -/
  draft : Draft
  /-- The installed formats. -/
  formats : Entries GuardedFormat
  /-- Whether formats are asserted. -/
  assertsFormats : Bool

namespace Validator

/-- The validator of a schema, if it is usable, with formats asserted or not. -/
def ofSchema? (schema : Value) (formats : Entries GuardedFormat) (assertsFormats : Bool) :
    Option Validator :=
  (compiles? schema).map fun draft => ⟨schema, draft, formats, assertsFormats⟩

/-- The validator of a schema on its own: only built-in formats, asserted as its edition says. -/
def standalone? (schema : Value) : Option Validator :=
  (compiles? schema).map fun draft => ⟨schema, draft, [], draft.assertsFormats⟩

/-- What evaluation depends on beside the schema. -/
def setting (validator : Validator) : Setting where
  format? name := (Entries.get? validator.formats name).map fun format => format.isMatch
  assertsFormats := validator.assertsFormats

def violations (validator : Validator) (document : Value) : List Violation :=
  JsonSchema.violations validator.setting validator.draft validator.schema document

def isValid (validator : Validator) (document : Value) : Bool :=
  (validator.violations document).isEmpty

end Validator

end Schemata.JsonSchema
