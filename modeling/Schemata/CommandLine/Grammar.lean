/-!
# Grammar of the command line

Commands with their options and arguments, as data: what a command takes, and what is said about it.
-/

namespace Schemata.CommandLine

/-- What a value on the command line has to be. -/
inductive ValueKind where
  /-- Any text. -/
  | text
  /-- A path, which is not empty. -/
  | path
  /-- A number of 64 bits. -/
  | count
  deriving DecidableEq, Repr

/-- An option. -/
structure Flag where
  /-- The name behind two dashes. -/
  long : String
  /-- The letter behind one dash. -/
  short : Option Char
  /-- What its value has to be, if it takes one. -/
  value : Option ValueKind
  /-- Whether it may be given again. -/
  repeatable : Bool
  /-- The name of its value in the help. -/
  shown : String
  /-- What is said about it. -/
  about : String

/-- An argument in its place. -/
structure Argument where
  /-- The name in the help. -/
  shown : String
  /-- What it has to be. -/
  value : ValueKind
  /-- Whether it may be left out. -/
  optional : Bool
  /-- What is said about it. -/
  about : String

/-- A command with the commands below it. -/
inductive Grammar where
  | mk (name about : String) (flags : List Flag) (arguments : List Argument) (below : List Grammar)

namespace Grammar

def name : Grammar → String
  | mk name _ _ _ _ => name

/-- What is said about a command. -/
def about : Grammar → String
  | mk _ about _ _ _ => about

/-- The options of a command alone. -/
def flags : Grammar → List Flag
  | mk _ _ flags _ _ => flags

def arguments : Grammar → List Argument
  | mk _ _ _ arguments _ => arguments

def commands : Grammar → List Grammar
  | mk _ _ _ _ below => below

def command? (grammar : Grammar) (name : String) : Option Grammar :=
  grammar.commands.find? fun command => command.name = name

end Grammar

/-- The options that all commands take. -/
def sharedFlags : List Flag := [
  ⟨"root", some 'r', some .path, true, "ROOTS", "Component root to scan (repeatable)"⟩,
  ⟨"config", some 'c', some .path, false, "CONFIG", "Configuration file"⟩]

/-- All commands. -/
def grammar : Grammar :=
  .mk "schema-registry" "Discover, compose and validate component schemas" [] [] [
    .mk "discover" "Scan component roots and list what was registered" [] [] [],
    .mk "resolve" "Print a schema after merging its extensions"
      [⟨"raw", none, none, false, "", "Print the merged document instead of the compiled one"⟩]
      [⟨"NAME", .text, false, ""⟩] [],
    .mk "validate" "Validate a JSON instance against a schema" []
      [⟨"NAME", .text, false, ""⟩, ⟨"INSTANCE", .path, false, ""⟩] [],
    .mk "search" "Fuzzy search over registered schema names"
      [⟨"limit", some 'l', some .count, false, "LIMIT", "[default: 10]"⟩]
      [⟨"QUERY", .text, false, ""⟩] [],
    .mk "check-format" "Show how a format pattern would be installed" []
      [⟨"NAME", .text, false, ""⟩, ⟨"PATTERN", .text, false, ""⟩] [],
    .mk "config" "Configuration management" [] [] [
      .mk "show" "Print the effective configuration" [] [] [],
      .mk "init" "Write a default configuration file" []
        [⟨"PATH", .path, true, "[default: schemas.toml]"⟩] []]]

end Schemata.CommandLine
