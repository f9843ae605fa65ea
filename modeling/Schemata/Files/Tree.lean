import Schemata.Entries
import Schemata.Files.Path

/-!
# File trees

A tree of directories, files and links, as seen from a current directory. Reading follows links;
`Trouble` says why a path cannot be read.
-/

namespace Schemata.Files

/-- A directory, a file or a link. -/
inductive Tree where
  /-- A file with its bytes. -/
  | file (bytes : ByteArray)
  /-- A directory with its entries by name. -/
  | directory (entries : List (String × Tree))
  /-- A link to another path. -/
  | link (target : String)
  deriving Inhabited

/-- Why a path cannot be read. -/
inductive Trouble where
  | notFound
  | notDirectory
  | isDirectory
  | tooManyLinks
  | notText
  deriving DecidableEq, Repr

def Trouble.message : Trouble → String
  | notFound => "No such file or directory (os error 2)"
  | notDirectory => "Not a directory (os error 20)"
  | isDirectory => "Is a directory (os error 21)"
  | tooManyLinks => "Too many levels of symbolic links (os error 40)"
  | notText => "stream did not contain valid UTF-8"

namespace Tree

def entry? (tree : Tree) (name : String) : Option Tree :=
  match tree with
  | directory entries => Entries.get? entries name
  | _ => none

/-- What stands at the end of some names. -/
def descend? (tree : Tree) : List String → Option Tree
  | [] => some tree
  | name :: names => (tree.entry? name).bind fun below => below.descend? names

def isDirectory : Tree → Bool
  | directory _ => true
  | _ => false

def isFile : Tree → Bool
  | file _ => true
  | _ => false

/-- The tree with something else at the end of some names; directories on the way are made. -/
def insert (tree : Tree) (below : Tree) : List String → Tree
  | [] => below
  | name :: names =>
    let entries := match tree with
      | directory entries => entries
      | _ => []
    let inner := (Entries.get? entries name).getD (directory [])
    directory (Entries.put entries name (inner.insert below names))

end Tree

/-- Files and the directory that paths are seen from. -/
structure FileSystem where
  /-- The tree below the root. -/
  root : Tree
  /-- The path of the current directory, from the root. -/
  current : String

namespace FileSystem

/-- How many links may be followed on the way to one file. -/
def linkLimit : Nat := 40

/-- The place, as names from the root, that some parts lead to from a place. Links are followed. -/
def walk (root : Tree) (links : Nat) (place : List String) (parts : List Part) :
    Except Trouble (List String) :=
  match parts with
  | [] => .ok place
  | .root :: rest => walk root links [] rest
  | part :: rest =>
    match root.descend? place with
    | some (.directory entries) =>
      match part with
      | .parent => walk root links place.dropLast rest
      | .name name =>
        match Entries.get? entries name with
        | none => .error .notFound
        | some (.link target) =>
          match links with
          | 0 => .error .tooManyLinks
          | links + 1 => walk root links place (Files.parts target ++ rest)
        | some _ => walk root links (place ++ [name]) rest
      | _ => walk root links place rest
    | _ => .error .notDirectory
termination_by (links, parts.length)

def place (files : FileSystem) (path : String) : Except Trouble (List String) :=
  if path.isEmpty then .error .notFound
  else walk files.root linkLimit [] (.root :: Files.parts (Files.join files.current path))

/-- What a path leads to. -/
def lookup (files : FileSystem) (path : String) : Except Trouble Tree := do
  let place ← files.place path
  match files.root.descend? place with
  | some tree => if tree.isFile && Text.endsWith '/' path then .error .notDirectory else .ok tree
  | none => .error .notFound

def exists? (files : FileSystem) (path : String) : Bool := (files.lookup path).toOption.isSome

def isDirectory (files : FileSystem) (path : String) : Bool :=
  (files.lookup path).toOption.any Tree.isDirectory

def isFile (files : FileSystem) (path : String) : Bool := (files.lookup path).toOption.any Tree.isFile

def readText (files : FileSystem) (path : String) : Except Trouble String := do
  match ← files.lookup path with
  | .file bytes =>
    match String.fromUTF8? bytes with
    | some text => .ok text
    | none => .error .notText
  | _ => .error .isDirectory

/-- The place of a file that is to be written, as `walk` finds it, but that the last name may be
missing in its directory, also behind links. -/
def newPlace (root : Tree) (links : Nat) (place : List String) (parts : List Part) :
    Except Trouble (List String) :=
  match parts with
  | [] => .ok place
  | .root :: rest => newPlace root links [] rest
  | part :: rest =>
    match root.descend? place with
    | some (.directory entries) =>
      match part with
      | .parent => newPlace root links place.dropLast rest
      | .name name =>
        match Entries.get? entries name with
        | none => if rest.isEmpty then .ok (place ++ [name]) else .error .notFound
        | some (.link target) =>
          match links with
          | 0 => .error .tooManyLinks
          | links + 1 => newPlace root links place (Files.parts target ++ rest)
        | some _ => newPlace root links (place ++ [name]) rest
      | _ => newPlace root links place rest
    | _ => .error .notDirectory
termination_by (links, parts.length)

def writeText (files : FileSystem) (path text : String) : Except Trouble FileSystem := do
  if path.isEmpty then .error .notFound
  else
    let place ← newPlace files.root linkLimit [] (.root :: Files.parts (Files.join files.current path))
    if Text.endsWith '/' path ∨ (files.root.descend? place).any Tree.isDirectory then
      .error .isDirectory
    else .ok { files with root := files.root.insert (.file text.toUTF8) place }

end FileSystem

end Schemata.Files
