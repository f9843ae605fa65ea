import Schemata.CommandLine.Help
import Schemata.Settings.Item

/-!
# Arguments

Reads the words of a command line into an invocation. What all commands take may be given at any
level; the innermost level that has an option decides.
-/

namespace Schemata.CommandLine

/-! ## Words -/

/-- Why no command is run. -/
inductive Stop where
  /-- A help page was asked for. -/
  | help (page : String)
  /-- The words make no sense. -/
  | misuse
  deriving DecidableEq, Repr

/-- What one level of the command line holds. -/
structure Level where
  /-- Options with their values, in order. -/
  options : List (String × String)
  /-- Arguments in order. -/
  arguments : List String
  deriving DecidableEq, Repr

def ValueKind.accepts (kind : ValueKind) (word : String) : Bool :=
  match kind with
  | .text => true
  | .path => !word.isEmpty
  | .count => (Settings.Item.wordOfDigits? word).isSome

/-- Whether a word looks like an option. A dash alone does not. -/
def looksLikeFlag (word : String) : Bool := word.startsWith "-" && word ≠ "-"

def splitEquals (word : String) : String × Option String :=
  let cs := word.toList
  let name := cs.takeWhile (· ≠ '=')
  (String.ofList name,
    match cs.drop name.length with
    | _ :: value => some (String.ofList value)
    | [] => none)

/-- What a word that looks like an option says. -/
inductive Spelled where
  /-- A help page is asked for. -/
  | help
  /-- An option, perhaps with a value. -/
  | flag (flag : Flag) (value : Option String)
  /-- No option. -/
  | unknown

/-- Reads a word that looks like an option. -/
def spell (flags : List Flag) (word : String) : Spelled :=
  match word.toList with
  | '-' :: '-' :: rest =>
    let (name, value) := splitEquals (String.ofList rest)
    if name = "help" then (if value.isNone then .help else .unknown)
    else
      match flags.find? fun flag => flag.long = name with
      | some flag => .flag flag value
      | none => .unknown
  | '-' :: letter :: rest =>
    if letter = 'h' then .help
    else
      match flags.find? fun flag => flag.short = some letter with
      | none => .unknown
      | some flag =>
        match rest with
        | [] => .flag flag none
        | '=' :: value => .flag flag (some (String.ofList value))
        | value => .flag flag (some (String.ofList value))
  | _ => .unknown

namespace Level

def addOption (level : Level) (flag : Flag) (value : String) : Except Stop Level :=
  let again := !flag.repeatable && level.options.any fun option => option.1 = flag.long
  let wrong := match flag.value with
    | some kind => !kind.accepts value
    | none => false
  if again || wrong then .error .misuse
  else .ok { level with options := level.options ++ [(flag.long, value)] }

def addArgument (level : Level) (grammar : Grammar) (word : String) : Except Stop Level :=
  match grammar.arguments[level.arguments.length]? with
  | some argument =>
    if argument.value.accepts word then .ok { level with arguments := level.arguments ++ [word] }
    else .error .misuse
  | none => .error .misuse

/-- Whether all arguments that are needed are there. -/
def isComplete (level : Level) (grammar : Grammar) : Bool :=
  (grammar.arguments.drop level.arguments.length).all (·.optional)

/-- The value of an option; of several the last. -/
def option? (level : Level) (name : String) : Option String :=
  (level.options.reverse.find? fun option => option.1 = name).map (·.2)

def optionAll (level : Level) (name : String) : List String :=
  (level.options.filter fun option => option.1 = name).map (·.2)

def addRest (grammar : Grammar) : Level → List String → Except Stop Level
  | level, [] => .ok level
  | level, word :: words => do addRest grammar (← level.addArgument grammar word) words

/-- Reads the words of one level, up to the name of a command below. -/
def read (grammar : Grammar) (page : String) :
    Level → List String → Except Stop (Level × Option (String × List String))
  | level, [] => .ok (level, none)
  | level, word :: words =>
    if word = "--" then (addRest grammar level words).map fun level => (level, none)
    else if looksLikeFlag word then
      match spell (grammar.flags ++ sharedFlags) word with
      | .unknown => .error .misuse
      | .help => .error (.help page)
      | .flag flag value =>
        match flag.value, value, words with
        | none, none, words => do read grammar page (← level.addOption flag "") words
        | none, some _, _ => .error .misuse
        | some _, some value, words => do read grammar page (← level.addOption flag value) words
        | some _, none, [] => .error .misuse
        | some _, none, value :: words =>
          if looksLikeFlag value then .error .misuse
          else do read grammar page (← level.addOption flag value) words
    else if grammar.commands.isEmpty then do
      read grammar page (← level.addArgument grammar word) words
    else .ok (level, some (word, words))

end Level

/-! ## Commands -/

def helpAt (grammar : Grammar) (names : List String) : List String → Stop
  | [] => .help (grammar.helpPage names)
  | word :: words =>
    match grammar.command? word with
    | some command => helpAt command (names ++ [word]) words
    | none => .misuse

/-- Reads the words of a command and of the commands below it, at most so many levels. -/
def readLevels (grammar : Grammar) (names : List String) :
    Nat → List String → Except Stop (List (String × Level))
  | 0, _ => .error .misuse
  | fuel + 1, words => do
    let (level, next) ← Level.read grammar (grammar.helpPage names) ⟨[], []⟩ words
    match next with
    | none =>
      if grammar.commands.isEmpty && level.isComplete grammar then pure [(grammar.name, level)]
      else .error .misuse
    | some (name, words) =>
      match grammar.command? name with
      | some command => do
        let levels ← readLevels command (names ++ [name]) fuel words
        pure ((grammar.name, level) :: levels)
      | none => if name = "help" then .error (helpAt grammar names words) else .error .misuse

/-- A command. -/
inductive Command where
  /-- Lists the schemas that are found. -/
  | discover
  /-- Prints a schema, as it is or compiled. -/
  | resolve (name : String) (raw : Bool)
  /-- Holds a file against a schema. -/
  | validate (name subject : String)
  /-- Searches names. -/
  | search (query : String) (limit : Nat)
  /-- Shows what becomes of a format. -/
  | checkFormat (name pattern : String)
  /-- Prints the settings. -/
  | showSettings
  /-- Writes settings to a new file. -/
  | initSettings (path : String)
  deriving DecidableEq, Repr

/-- A command with what all commands take. -/
structure Invocation where
  /-- Roots of components. -/
  roots : List String
  /-- The file of settings. -/
  settings : Option String
  /-- The command. -/
  command : Command
  deriving DecidableEq, Repr

def commandOf? (name : String) (level : Level) : Option Command :=
  match name, level.arguments with
  | "discover", _ => some .discover
  | "resolve", [schema] => some (.resolve schema (level.option? "raw").isSome)
  | "validate", [schema, subject] => some (.validate schema subject)
  | "search", [query] =>
    some (.search query (((level.option? "limit").bind Settings.Item.wordOfDigits?).getD 10))
  | "check-format", [format, pattern] => some (.checkFormat format pattern)
  | "show", _ => some .showSettings
  | "init", [] => some (.initSettings "schemas.toml")
  | "init", [path] => some (.initSettings path)
  | _, _ => none

def Invocation.read (words : List String) : Except Stop Invocation := do
  let levels ← readLevels grammar [grammar.name] 3 words
  let innermost (name : String) : List String :=
    ((levels.reverse.map fun level => level.2.optionAll name).find? fun values => !values.isEmpty).getD []
  match levels.getLast? with
  | some (name, level) =>
    match commandOf? name level with
    | some command => pure ⟨innermost "root", (innermost "config").head?, command⟩
    | none => .error .misuse
  | none => .error .misuse

end Schemata.CommandLine
