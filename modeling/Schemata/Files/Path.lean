import Schemata.Text.Words

/-!
# Paths

Paths of files as texts with slashes. A path is kept as it was written; its parts are the names
between the slashes, where empty names and a dot that is not the first part do not count.
-/

namespace Schemata.Files

/-- A part of a path. -/
inductive Part where
  /-- The root. -/
  | root
  /-- The current directory, as the first part. -/
  | current
  /-- The directory above. -/
  | parent
  /-- A name. -/
  | name (name : String)
  deriving DecidableEq, Repr

def parts (path : String) : List Part :=
  let words := Text.splitAll '/' path
  let leading : List Part :=
    if Text.startsWith '/' path then [.root] else if words.head? = some "." then [.current] else []
  leading ++ words.filterMap fun word =>
    if word = "" ∨ word = "." then none else if word = ".." then some .parent else some (.name word)

def fileName? (path : String) : Option String :=
  match (parts path).getLast? with
  | some (.name name) => some name
  | _ => none

/-- The ending of a file name behind its last dot, unless that dot is the first character. -/
def extension? (path : String) : Option String :=
  (fileName? path).bind fun name =>
    let behind := name.toList.reverse.takeWhile (· ≠ '.')
    if name.length ≤ behind.length + 1 then none else some (String.ofList behind.reverse)

/-- A path seen from a directory; a path from the root stays what it is. -/
def join (directory path : String) : String :=
  if Text.startsWith '/' path then path
  else if directory.isEmpty ∨ Text.endsWith '/' directory then directory ++ path
  else directory ++ "/" ++ path

end Schemata.Files
