import Schemata.CommandLine.Arguments
import Schemata.Json.Printer
import Schemata.Registry
import Schemata.Settings.Loading
import Schemata.Settings.Written

/-!
# Running commands

What a command prints, with which code it ends, and which files there are then. Files that cannot be
registered are reported first; settings that cannot be loaded are left out, except where they are
what was asked for.
-/

namespace Schemata.CommandLine

open Files (FileSystem)
open Settings (Surroundings)

/-- What a command has done. -/
structure Outcome where
  /-- The code that it ends with. -/
  code : Nat
  /-- What it printed. -/
  output : String
  /-- What it complained about. -/
  complaints : String
  /-- The files then. -/
  files : FileSystem

namespace Outcome

/-- A command that ends well. -/
def success (files : FileSystem) (output : String) : Outcome := ⟨0, output, "", files⟩

/-- A command that fails with a reason. -/
def failure (files : FileSystem) (output reason : String) : Outcome :=
  ⟨1, output, "Error: " ++ reason ++ "\n", files⟩

/-- A command that complained before. -/
def after (complaints : String) (outcome : Outcome) : Outcome :=
  { outcome with complaints := complaints ++ outcome.complaints }

end Outcome

/-! ## Commands -/

/-- The schemas that were found, and the extensions that wait. -/
def listing (registry : Registry) : String :=
  let row (entry : String × Schema) : String :=
    let extensions := entry.2.extensions
    "  ✅ " ++ entry.1 ++ " (" ++ entry.2.source.getD "" ++ ")" ++
      (if extensions.isEmpty then "" else " + " ++ ", ".intercalate extensions) ++ "\n"
  let waiting (entry : String × List String) : String :=
    "  " ++ entry.1 ++ " <- " ++ ", ".intercalate entry.2 ++ "\n"
  "🔍 Discovering schemas...\n" ++ String.join (registry.catalog.map row) ++
    (if registry.ledger.isEmpty then ""
      else "\n⏳ Waiting for patch sources:\n" ++ String.join (registry.ledger.pending.map waiting)) ++
    "\n📊 " ++ toString registry.size ++ " schemas registered\n"

/-- Prints a schema. For a name that is not registered similar ones are named. -/
def resolve (registry : Registry) (files : FileSystem) (name : String) (raw : Bool) : Outcome :=
  match registry.resolve name { compiled := !raw } with
  | .ok (.compiled compiled, _) => .success files (compiled.document.pretty ++ "\n")
  | .ok (.document document, _) => .success files (document.pretty ++ "\n")
  | .error (.notFound kind id) =>
    let row (hit : Registry.SearchHit) : String := "  - " ++ hit.name ++ "\n"
    let similar := registry.search name 3
    let hint := if similar.isEmpty then "" else "Did you mean:\n" ++ String.join (similar.map row)
    (Outcome.failure files "" (Failure.notFound kind id).message).after hint
  | .error failure => .failure files "" failure.message

/-- Holds a file against a schema. -/
def validate (registry : Registry) (files : FileSystem) (name subject : String) : Outcome :=
  match files.readText subject with
  | .error trouble => .failure files "" ("reading " ++ subject ++ ": " ++ trouble.message)
  | .ok text =>
    match Json.Value.read text with
    | .error fault => .failure files "" ("parsing " ++ subject ++ ": " ++ fault.describe text)
    | .ok document =>
      match (registry.validate name document).1 with
      | .ok _ => .success files ("✅ " ++ subject ++ " is valid against " ++ name ++ "\n")
      | .error (.invalid errors) =>
        let row (error : String) : String := "  - " ++ error ++ "\n"
        .failure files
          ("❌ " ++ subject ++ " is invalid against " ++ name ++ "\n" ++ String.join (errors.map row))
          (toString errors.length ++ " validation errors")
      | .error failure => .failure files "" failure.message

def search (registry : Registry) (files : FileSystem) (query : String) (limit : Nat) : Outcome :=
  let row (hit : Registry.SearchHit) : String :=
    "  " ++ padLeft 4 (toString hit.score) ++ "  " ++ hit.name ++ "\n"
  let hits := registry.search query limit
  .success files <|
    if hits.isEmpty then "No schemas matching '" ++ query ++ "'\n" else String.join (hits.map row)

def checkFormat (files : FileSystem) (name pattern : String) : Outcome :=
  let format := Format.guard name pattern
  .success files <|
    match format.verdict with
    | .safe => "✅ " ++ name ++ " accepted: " ++ format.installed ++ "\n"
    | .hazardous hazard =>
      "⚠️  " ++ name ++ " rejected: " ++ hazard.message pattern ++ "\n   installed as: " ++
        format.installed ++ "\n"

def showSettings (files : FileSystem) (surroundings : Surroundings) (path : Option String) : Outcome :=
  match Settings.load files surroundings path with
  | .ok settings =>
    match settings.write? with
    | some text => .success files (text ++ "\n")
    | none => .failure files "" Settings.unwritable
  | .error (.config reason) => .failure files "" ("loading configuration: " ++ reason)
  | .error failure => .failure files "" failure.message

def initSettings (files : FileSystem) (path : String) : Outcome :=
  if files.exists? path then .failure files "" (path ++ " already exists")
  else
    match Settings.writeTo {} files path with
    | .ok files => .success files ("✅ Wrote " ++ path ++ "\n")
    | .error reason => .failure files "" ("writing " ++ path ++ ": " ++ reason)

/-! ## Running -/

/-- Runs a command of a registry on what is found below all roots. -/
def withRegistry (files : FileSystem) (surroundings : Surroundings) (invocation : Invocation)
    (command : Registry → Outcome) : Outcome :=
  let settings := (Settings.load files surroundings invocation.settings).toOption
  let (registry, report) := (Registry.new {} files.current).start files invocation.roots settings
  let row (loss : Discovery.Loss) : String :=
    "  ❌ " ++ loss.path ++ " - " ++ loss.reason.message ++ "\n"
  (command registry).after (String.join (report.losses.map row))

def run (files : FileSystem) (surroundings : Surroundings) (invocation : Invocation) : Outcome :=
  let onRegistry := withRegistry files surroundings invocation
  match invocation.command with
  | .discover => onRegistry fun registry => .success files (listing registry)
  | .resolve name raw => onRegistry fun registry => resolve registry files name raw
  | .validate name subject => onRegistry fun registry => validate registry files name subject
  | .search query limit => onRegistry fun registry => search registry files query limit
  | .checkFormat name pattern => checkFormat files name pattern
  | .showSettings => showSettings files surroundings invocation.settings
  | .initSettings path => initSettings files path

/-- Runs a command line. One that makes no sense ends with the code 2. -/
def runWords (files : FileSystem) (surroundings : Surroundings) (words : List String) : Outcome :=
  match Invocation.read words with
  | .ok invocation => run files surroundings invocation
  | .error (.help page) => .success files page
  | .error .misuse => ⟨2, "", grammar.usage [grammar.name] ++ "\n", files⟩

end Schemata.CommandLine
