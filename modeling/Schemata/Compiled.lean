import Schemata.JsonSchema.Validator
import Schemata.Failure

/-!
# Compiled schemas

A validator with the name that it was compiled under. Each compilation has a number of its own, by
which a compiled schema that is handed out again can be told from one that was compiled again.
-/

namespace Schemata

open Json (Value)
open JsonSchema (Validator)

/-- A compiled schema. -/
structure Compiled where
  /-- The number of the compilation. -/
  serial : Nat
  /-- The name that it was compiled under. -/
  name : String
  /-- The validator. -/
  validator : Validator

namespace Compiled

/-- The document that was compiled: references bundled and keywords expanded. -/
def document (compiled : Compiled) : Value := compiled.validator.schema

/-- Whether a document satisfies the schema. -/
def isValid (compiled : Compiled) (subject : Value) : Bool := compiled.validator.isValid subject

/-- Fails with all violations of a document. -/
def validate (compiled : Compiled) (subject : Value) : Except Failure Unit :=
  let violations := compiled.validator.violations subject
  if violations.isEmpty then .ok ()
  else .error (.invalid (violations.map JsonSchema.Violation.message))

end Compiled

end Schemata
