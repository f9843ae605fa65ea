import Schemata.CommandLine.Running

/-!
# The program

Looks at the files that a command line may need, runs it on them, and writes what it printed and the
file that it made.
-/

namespace Schemata.Program

open CommandLine (Invocation)
open Files (FileSystem Tree Part)
open Settings (Surroundings)

/-- Gives nothing where an action fails. -/
def attempt {α : Type} (action : IO α) : IO (Option α) := do
  try
    return some (← action)
  catch _ =>
    return none

def pathOf (parts : List Part) : String :=
  "/" ++ "/".intercalate (parts.filterMap fun part =>
    match part with
    | .name name => some name
    | .parent => some ".."
    | _ => none)

/-- The names on the way to a path without links. -/
def namesOf (path : String) : List String :=
  (Files.parts path).filterMap fun part =>
    match part with
    | .name name => some name
    | _ => none

/-- Adds what a path from the root leads to, and a link where it leads on. -/
def observeAt (tree : Tree) (parts : List Part) : IO Tree := do
  let path := pathOf parts
  match ← attempt (IO.FS.realPath path) with
  | none => return tree
  | some real =>
    let place := namesOf real.toString
    let below ←
      if ← real.isDir then pure (Tree.directory [])
      else pure (Tree.file ((← attempt (IO.FS.readBinFile path)).getD ByteArray.empty))
    let known := (tree.descend? place).any Tree.isDirectory
    let tree := if known then tree else tree.insert below place
    match parts.getLast?, ← attempt (IO.FS.realPath (pathOf parts.dropLast)) with
    | some (.name name), some above =>
      let named := namesOf above.toString ++ [name]
      return if named = place then tree else tree.insert (.link real.toString) named
    | _, _ => return tree

/-- Adds what stands on the way to a path and at its end. -/
def observe (current : String) (tree : Tree) (path : String) : IO Tree := do
  let parts := (Files.parts (Files.join current path)).filter fun part => part ≠ .root
  let ways := (List.range parts.length).map fun i => parts.take (i + 1)
  ways.foldlM observeAt tree

/-- Adds the schema files below the root of a component. -/
def observeRoot (current : String) (tree : Tree) (root : String) : IO Tree := do
  let inner := Files.join (Files.join current root) "schema"
  let tree ← observe current tree inner
  match ← attempt (do return ← (← IO.FS.realPath inner).readDir) with
  | none => return tree
  | some entries =>
    entries.toList.foldlM (fun tree entry => observe current tree (Files.join inner entry.fileName)) tree

/-- The variables that a program is started with. -/
def environment : IO (List (String × String)) := do
  let bytes := (← attempt (IO.FS.readBinFile "/proc/self/environ")).getD ByteArray.empty
  let text := (String.fromUTF8? bytes).getD ""
  return (text.splitOn "\x00").filterMap fun entry => Text.splitAt? '=' entry

def userDirectory (environment : List (String × String)) : Option String :=
  match environment.lookup "XDG_CONFIG_HOME" with
  | some directory => some directory
  | none => (environment.lookup "HOME").map fun home => Files.join home ".config"

def settingsPlaces (surroundings : Surroundings) (path : Option String) : List String :=
  let user := surroundings.userDirectory.toList.map fun directory =>
    Files.join (Files.join directory "schemas") "schemas.toml"
  (Settings.usualPlaces ++ user ++ path.toList).flatMap fun place =>
    place :: Settings.readers.map fun reader => place ++ "." ++ reader.1

/-- The file that a command reads or writes. -/
def subjectOf : CommandLine.Command → List String
  | .validate _ subject => [subject]
  | .initSettings path => [path]
  | _ => []

/-- The files that an invocation needs. -/
def snapshot (current : String) (surroundings : Surroundings) (invocation : Invocation) :
    IO FileSystem := do
  let places := settingsPlaces surroundings invocation.settings ++ subjectOf invocation.command
  let tree ← observe current (.directory []) current
  let tree ← places.foldlM (observe current) tree
  let configured :=
    match Settings.load ⟨tree, current⟩ surroundings invocation.settings with
    | .ok settings => settings.rootsFrom current
    | .error _ => []
  let tree ← (invocation.roots ++ configured).foldlM (observeRoot current) tree
  return ⟨tree, current⟩

/-- Runs the words of a command line, and gives the code to end with. -/
def runWords (words : List String) : IO UInt32 := do
  let current := (← IO.currentDir).toString
  let environment ← environment
  let surroundings : Surroundings := ⟨userDirectory environment, environment⟩
  let files ←
    match Invocation.read words with
    | .ok invocation => snapshot current surroundings invocation
    | .error _ => pure ⟨.directory [], current⟩
  let outcome := CommandLine.runWords files surroundings words
  match Invocation.read words with
  | .ok ⟨_, _, .initSettings path⟩ =>
    match outcome.code, outcome.files.readText path with
    | 0, .ok text => IO.FS.writeFile path text
    | _, _ => pure ()
  | _ => pure ()
  IO.print outcome.output
  IO.eprint outcome.complaints
  return outcome.code.toUInt32

end Schemata.Program

/-- Runs the command line. -/
def main (words : List String) : IO UInt32 := Schemata.Program.runWords words
