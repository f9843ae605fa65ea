import Schemata.Compiled
import Schemata.Digest.Fingerprint
import Schemata.Files.Path
import Schemata.Json.Reader
import Schemata.Json.Pointer

/-!
# Schemas

A schema is a document with a name: its `$id`, or the name of the file that it comes from. A schema
whose `$patch` names another one extends that one, and every schema keeps the list of its extensions.
-/

namespace Schemata

open Json (Value)

/-- A compiled schema that is kept, with the fingerprint of what it was compiled from. -/
structure Memo where
  /-- The fingerprint. -/
  key : Fingerprint
  /-- The compiled schema. -/
  compiled : Compiled

/-- A document with a name. -/
structure Schema where
  /-- The name. -/
  name : String
  /-- The document as it was given. -/
  document : Value
  /-- The file that it comes from. -/
  source : Option String
  /-- The name of the schema that it extends. -/
  patchSource : Option String
  /-- The names of its extensions, in order of application. -/
  extensions : List String
  /-- What was compiled from it last. -/
  memo : Option Memo

namespace Schema

/-! ## Reading -/

/-- The name that a file name gives: without the ending of schema files, or that of documents. -/
def nameFromPath? (path : String) : Option String := do
  let file ← Files.fileName? path
  let name := (Text.dropSuffix? ".schema.json" file <|> Text.dropSuffix? ".json" file).getD file
  if name.isEmpty then none else some name

/-- The name of the schema that a document extends; the fault is a text. -/
def patchSourceOf (document : Value) : Except String (Option String) :=
  match document.member? "$patch" with
  | none => .ok none
  | some patch =>
    match patch.at? "/source/$ref" with
    | some (.string reference) =>
      let target := Text.before '#' reference
      if target.isEmpty then .error "$patch.source.$ref does not name a schema" else .ok (some target)
    | _ => .error "$patch.source.$ref must be a string"

def nameOf (members : List (String × Value)) (source : Option String) : Except Failure String :=
  match Entries.get? members "$id" with
  | some (.string id) =>
    if Text.isBlank id then .error (.invalidParam "$id must be a non-empty string") else .ok id
  | some _ => .error (.invalidParam "$id must be a non-empty string")
  | none =>
    match source.bind nameFromPath? with
    | some name => .ok name
    | none => .error (.invalidParam "$id")

/-- The schema of a document, perhaps from a file. -/
def ofDocument (document : Value) (source : Option String) : Except Failure Schema :=
  match document with
  | .object members => do
    let name ← nameOf members source
    match patchSourceOf document with
    | .ok patchSource => .ok ⟨name, document, source, patchSource, [], none⟩
    | .error reason => .error (.load (source.getD name) reason)
  | _ => .error (.invalidParam "document must be a JSON object")

def ofText (path text : String) : Except Failure Schema :=
  match Value.read text with
  | .ok document => ofDocument document (some path)
  | .error fault => .error (.load path (fault.describe text))

/-! ## Extensions -/

def isCompiled (schema : Schema) : Bool := schema.memo.isSome

/-- Forgets what was compiled. -/
def invalidate (schema : Schema) : Schema := { schema with memo := none }

/-- Adds an extension behind the others; one that is there already is no change. -/
def addExtension (schema : Schema) (extension : String) : Schema :=
  if schema.extensions.contains extension then schema
  else { schema with extensions := schema.extensions ++ [extension], memo := none }

/-- Removes an extension; one that is not there is no change. -/
def removeExtension (schema : Schema) (extension : String) : Schema :=
  if schema.extensions.contains extension then
    { schema with extensions := schema.extensions.filter (· ≠ extension), memo := none }
  else schema

def ownDocument (schema : Schema) : Value := schema.document.withoutMember "$patch"

end Schema

end Schemata
