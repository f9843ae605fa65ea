import Schemata.Failure
import Schemata.Files.Tree
import Schemata.Json.Reader
import Schemata.Settings.Environment
import Schemata.Settings.Layers
import Schemata.Settings.Reading
import Schemata.Toml.Reader

/-!
# Loading settings

Settings come from files and from the environment. Files in usual places may be missing; a file that
is asked for may not. What comes later lies over what came before.
-/

namespace Schemata.Settings

open Files (FileSystem)

/-! ## Files -/

mutual
/-- A JSON document as an item. Integers beyond 63 bits are taken as binary64 numbers. -/
def itemOfJson : Json.Value → Item
  | .null => .nothing
  | .bool b => .bool b
  | .number (.integer i) =>
    if i < Nat.pow 2 63 then .integer i
    else .float ((Binary64.ofInt i).getD (Binary64.infinity false))
  | .number (.double x) => .float x
  | .string s => .text s
  | .array items => .list (itemsOfJson items)
  | .object members => .table (entriesOfJson members)

def itemsOfJson : List Json.Value → List Item
  | [] => []
  | value :: values => itemOfJson value :: itemsOfJson values

def entriesOfJson : List (String × Json.Value) → List (String × Item)
  | [] => []
  | (name, value) :: members => (name, itemOfJson value) :: entriesOfJson members
end

def readJson? (text : String) : Option Item := (Json.Value.read text).toOption.map itemOfJson

/-- The endings of file names, with what reads such files. -/
def readers : List (String × (String → Option Item)) := [("toml", Toml.read?), ("json", readJson?)]

/-- A file that settings are read from. -/
structure Location where
  /-- The path. -/
  path : String
  /-- What reads it. -/
  read? : String → Option Item

/-- The file of a path: the path itself, if its ending is known, or the path with a known ending. -/
def locate (files : FileSystem) (path : String) : Except Failure Location :=
  if files.isFile path then
    match (Files.extension? path).bind fun ending => readers.lookup ending with
    | some read? => .ok ⟨path, read?⟩
    | none =>
      .error (.config ("configuration file \"" ++ Files.join files.current path ++
        "\" is not of a registered file format"))
  else
    match readers.find? fun reader => files.isFile (path ++ "." ++ reader.1) with
    | some (ending, read?) => .ok ⟨path ++ "." ++ ending, read?⟩
    | none => .error (.config ("configuration file \"" ++ path ++ "\" not found"))

def fetch (files : FileSystem) (path : String) : Except Failure (Location × String) := do
  let location ← locate files path
  match files.readText location.path with
  | .ok text => .ok (location, text)
  | .error trouble => .error (.config trouble.message)

def parse (location : Location) (text : String) : Except Failure (List (String × Item)) :=
  match location.read? text with
  | some (.table entries) => .ok entries
  | _ => .error (.config ("unreadable settings in " ++ location.path))

/-- The entries in a file that has to be there. -/
def readRequired (files : FileSystem) (path : String) : Except Failure (List (String × Item)) := do
  let (location, text) ← fetch files path
  parse location text

def readOptional (files : FileSystem) (path : String) : Except Failure (List (String × Item)) :=
  match fetch files path with
  | .ok (location, text) => parse location text
  | .error _ => .ok []

/-! ## Places -/

/-- The files in the current directory that may hold settings. -/
def usualPlaces : List String := ["schemas.toml", ".schemas.toml", "config/schemas.toml"]

/-- What settings are loaded with beside files. -/
structure Surroundings where
  /-- The directory of a user's settings. -/
  userDirectory : Option String
  /-- All variables. -/
  environment : List (String × String)

def userPlace? (files : FileSystem) (surroundings : Surroundings) : Option String :=
  (surroundings.userDirectory.map fun directory =>
    Files.join (Files.join directory "schemas") "schemas.toml").filter files.exists?

/-- Loads settings: from the usual places, from the user's own file, from a file that is asked for,
and from the environment. -/
def load (files : FileSystem) (surroundings : Surroundings) (path : Option String) :
    Except Failure Settings := do
  let usual ← usualPlaces.mapM (readOptional files)
  let own ← (userPlace? files surroundings).toList.mapM (readOptional files)
  let asked ← path.toList.mapM (readRequired files)
  let sources := usual ++ own ++ asked ++ [ofEnvironment surroundings.environment]
  match ofItem? (sources.foldl Item.layOver (.table [])) with
  | some settings => .ok settings
  | none => .error (.config "settings of another type")

end Schemata.Settings
