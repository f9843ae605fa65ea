import Schemata.CommandLine.Grammar

/-!
# Help pages

What a command is for, how it is used, and tables of the commands below it, its arguments and its
options. The columns of a table are aligned.
-/

namespace Schemata.CommandLine

/-- A text filled up with blanks to a width. -/
def padRight (width : Nat) (text : String) : String :=
  text ++ String.ofList (List.replicate (width - text.length) ' ')

def padLeft (width : Nat) (text : String) : String :=
  String.ofList (List.replicate (width - text.length) ' ') ++ text

/-- A table under a heading, with a blank line before it; without rows there is nothing. -/
def table (heading : String) (rows : List (String × String)) : String :=
  if rows.isEmpty then ""
  else
    let width := (rows.map (·.1.length)).foldl max 0
    let row (entry : String × String) : String := "  " ++ padRight width entry.1 ++ "  " ++ entry.2 ++ "\n"
    "\n" ++ heading ++ ":\n" ++ String.join (rows.map row)

def helpRow : String × String := ("help", "Print this message or the help of the given subcommand(s)")

def Argument.shownName (argument : Argument) : String :=
  if argument.optional then "[" ++ argument.shown ++ "]" else "<" ++ argument.shown ++ ">"

def Flag.row (flag : Flag) : String × String :=
  let short := match flag.short with
    | some c => "-" ++ String.singleton c ++ ", "
    | none => "    "
  let value := if flag.value.isSome then " <" ++ flag.shown ++ ">" else ""
  (short ++ "--" ++ flag.long ++ value, flag.about)

def Grammar.usage (grammar : Grammar) (names : List String) : String :=
  let arguments := String.join (grammar.arguments.map fun argument => " " ++ argument.shownName)
  let commands := if grammar.commands.isEmpty then "" else " <COMMAND>"
  "Usage: " ++ " ".intercalate names ++ " [OPTIONS]" ++ arguments ++ commands

def Grammar.helpPage (grammar : Grammar) (names : List String) : String :=
  let commands := grammar.commands.map fun command => (command.name, command.about)
  let flags := (grammar.flags ++ sharedFlags).map Flag.row
  grammar.about ++ "\n\n" ++ grammar.usage names ++ "\n" ++
    table "Commands" (if commands.isEmpty then [] else commands ++ [helpRow]) ++
    table "Arguments" (grammar.arguments.map fun argument => (argument.shownName, argument.about)) ++
    table "Options" (flags ++ [("-h, --help", "Print help")])

end Schemata.CommandLine
