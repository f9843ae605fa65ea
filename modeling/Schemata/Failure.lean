import Schemata.Text.Quoted

/-!
# Failures

Why an operation on schemas fails. `Failure.kind` is the label of the category and `Failure.message`
the wording.
-/

namespace Schemata

/-- Why an operation on schemas fails. -/
inductive Failure where
  /-- Arguments that cannot be used. -/
  | invalidParams (params : List String)
  /-- A schema of the name is registered, perhaps from a file. -/
  | schemaExists (name : String) (file : Option String)
  /-- Nothing of the kind has the name. -/
  | notFound (kind id : String)
  /-- A source cannot be read as a schema. -/
  | load (source reason : String)
  /-- A file cannot be read or written. -/
  | io (reason : String)
  /-- A text is no document. -/
  | json (reason : String)
  /-- A keyword cannot be installed. -/
  | keyword (keyword reason : String)
  /-- A schema extends itself, along a chain of names. -/
  | circularExtension (chain : List String)
  /-- A document is no schema. -/
  | compile (name reason : String)
  /-- A document does not satisfy its schema. -/
  | invalid (errors : List String)
  /-- A configuration cannot be used. -/
  | config (reason : String)
  deriving DecidableEq, Repr

namespace Failure

def schemaNotFound (id : String) : Failure := .notFound "schema" id

/-- One argument that cannot be used. -/
def invalidParam (param : String) : Failure := .invalidParams [param]

/-- The label of the category. -/
def kind : Failure → String
  | invalidParams _ => "InvalidParams"
  | schemaExists _ _ => "SchemaExists"
  | notFound _ _ => "NotFound"
  | load _ _ => "LoadError"
  | io _ => "LoadError"
  | json _ => "LoadError"
  | keyword _ _ => "KeywordRegistrationFailure"
  | circularExtension _ => "CircularExtension"
  | compile _ _ => "CompileError"
  | invalid _ => "ValidationFailed"
  | config _ => "ConfigError"

/-- The wording. -/
def message : Failure → String
  | invalidParams params => "Invalid parameters: " ++ String.intercalate ", " params
  | schemaExists name file =>
    let origin := match file with
      | some path => " (" ++ path ++ ")"
      | none => ""
    "Schema already exists: " ++ name ++ origin
  | notFound kind id => kind ++ " not found: " ++ id
  | load source reason => "Failed to load schema from " ++ source ++ ": " ++ reason
  | io reason => "IO error: " ++ reason
  | json reason => "JSON error: " ++ reason
  | keyword name reason => "Keyword '" ++ name ++ "' could not be registered: " ++ reason
  | circularExtension chain => "Circular extension: " ++ String.intercalate " -> " chain
  | compile name reason => "Failed to compile schema " ++ name ++ ": " ++ reason
  | invalid errors => "Validation failed: " ++ Text.quotedList errors
  | config reason => "Configuration error: " ++ reason

end Failure

end Schemata
