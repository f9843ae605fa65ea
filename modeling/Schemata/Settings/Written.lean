import Schemata.Failure
import Schemata.Files.Tree
import Schemata.Settings
import Schemata.Toml.Writer

/-!
# Written settings

Settings as a document of TOML with the tables `registry`, `discovery` and `formats`. Numbers beyond
63 bits cannot be written.
-/

namespace Schemata.Settings

open Toml

/-- The greatest number that can be written. -/
def writableLimit : Nat := Nat.pow 2 63 - 1

/-- Why settings cannot be written. -/
def unwritable : String := "out-of-range value for u64 type"

/-- Settings as a document of TOML, if they can be written. -/
def write? (settings : Settings) : Option String :=
  if writableLimit < settings.readTimeout then none
  else some <|
    "[registry]\n" ++
    writeEntry "cache_compiled" (writeBool settings.policy.cacheCompiled) ++
    writeEntry "validate_formats" (writeBool settings.policy.validateFormats) ++
    "\n[discovery]\n" ++
    writeEntry "roots" (writeTexts settings.roots) ++
    writeEntry "read_timeout_ms" (toString settings.readTimeout) ++
    "\n[formats]\n" ++
    String.join (settings.formats.map fun entry => writeEntry entry.1 (writeText entry.2))

/-- Writes settings to a file. The reason of a failure is a text. -/
def writeTo (settings : Settings) (files : Files.FileSystem) (path : String) :
    Except String Files.FileSystem :=
  match settings.write? with
  | none => .error unwritable
  | some text =>
    match files.writeText path text with
    | .ok files => .ok files
    | .error trouble => .error trouble.message

def save (settings : Settings) (files : Files.FileSystem) (path : String) :
    Except Failure Files.FileSystem :=
  match settings.writeTo files path with
  | .ok files => .ok files
  | .error reason => .error (.io reason)

end Schemata.Settings
