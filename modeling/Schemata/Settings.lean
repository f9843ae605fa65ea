import Schemata.Entries
import Schemata.Files.Path

/-!
# Settings

What can be set for a registry: its policy, the roots where it looks for schemas, how long it waits
for files, and formats to install.
-/

namespace Schemata

/-- How a registry treats compiled schemas and formats. -/
structure Policy where
  /-- Whether compiled schemas are kept. -/
  cacheCompiled : Bool := true
  /-- Whether formats are asserted. -/
  validateFormats : Bool := true
  deriving DecidableEq, Repr

/-- All settings. -/
structure Settings where
  /-- The policy. -/
  policy : Policy := {}
  /-- Roots of components, beside those of the host. -/
  roots : List String := []
  /-- How long to wait for a file, in milliseconds. -/
  readTimeout : Nat := 5000
  /-- Formats to install, by name. -/
  formats : Entries String := []
  deriving DecidableEq, Repr

def Settings.rootsFrom (settings : Settings) (directory : String) : List String :=
  settings.roots.map (Files.join directory)

end Schemata
