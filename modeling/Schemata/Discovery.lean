import Schemata.Schema
import Schemata.Files.Tree

/-!
# Discovery of schema files

A component keeps its schemas in the files `schema/*.schema.json` below its root. Links are no files,
and are not followed.
-/

namespace Schemata.Discovery

open Files (FileSystem Tree)

def isSchemaFile (name : String) : Bool := (Text.dropSuffix? ".schema.json" name).isSome

/-- The schema files below the root of a component, in order. -/
def scan (files : FileSystem) (root : String) : Except Failure (List String) :=
  match files.lookup root with
  | .ok (.directory entries) =>
    match Entries.get? entries "schema" with
    | some (.directory inner) =>
      let found := inner.filter fun entry => isSchemaFile entry.1 && entry.2.isFile
      .ok (found.map fun entry => Files.join (Files.join root "schema") entry.1)
    | _ => .ok []
  | _ => .error (.notFound "component root" root)

def load (files : FileSystem) (path : String) : Except Failure Schema :=
  match files.readText path with
  | .ok text => Schema.ofText path text
  | .error trouble => .error (.load path trouble.message)

/-- A path with the reason why nothing was registered from it. -/
structure Loss where
  /-- The path of a file or of a root. -/
  path : String
  /-- The reason. -/
  reason : Failure
  deriving DecidableEq, Repr

/-- What discovery has done. -/
structure Report where
  /-- The registered names, in order. -/
  registered : List String
  /-- What could not be registered, in order. -/
  losses : List Loss
  deriving DecidableEq, Repr

/-- Whether all went well. -/
def Report.isClean (report : Report) : Bool := report.losses.isEmpty

end Schemata.Discovery
