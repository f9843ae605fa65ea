import Schemata.Compiled
import Schemata.Keyword
import Schemata.Bundle

/-!
# The engine

Holds the installed formats and keywords, and turns documents into compiled schemas: `prepare` makes
a document self-contained and expands the keywords in it, `compile` makes the validator. The
generation counts changes, so that what was compiled under another generation is known to be stale.
-/

namespace Schemata

open Json (Value)
open JsonSchema (Validator)
open Schemata.Format (GuardedFormat)

/-- A keyword with the validator of its values. -/
structure InstalledKeyword where
  /-- The keyword. -/
  keyword : Keyword
  /-- The validator of its values, if they have to satisfy a schema. -/
  validator : Option Validator

/-- Formats, keywords and settings for compilation. -/
structure Engine where
  /-- The installed formats by name. -/
  formats : Entries GuardedFormat
  /-- The installed keywords in order of installation. -/
  keywords : List InstalledKeyword
  /-- Whether formats are asserted. -/
  assertsFormats : Bool
  /-- The number of changes so far. -/
  generation : Nat

namespace Engine

/-- Nothing installed, formats asserted. -/
def empty : Engine := ⟨[], [], true, 0⟩

def keywordNames (engine : Engine) : List String := engine.keywords.map (·.keyword.name)

/-! ## Installation -/

/-- Installs a format; one of the same name is replaced. -/
def addFormat (engine : Engine) (format : GuardedFormat) : Engine :=
  { engine with
    formats := Entries.put engine.formats format.name format
    generation := engine.generation + 1 }

/-- Why a keyword cannot be installed, its values aside. -/
def keywordFault? (engine : Engine) (keyword : Keyword) : Option Failure :=
  let name := Text.trim keyword.name
  if name.isEmpty then some (.keyword keyword.name "keyword name is empty")
  else if reservedKeywords.contains name then some (.keyword name "shadows a standard keyword")
  else if engine.keywordNames.contains name then some (.keyword name "already registered")
  else
    match keyword.template.isSome, keyword.expander.isSome with
    | false, false => some (.keyword name "no expansion given")
    | true, true => some (.keyword name "both a template and an expander given")
    | _, _ => none

def valueValidator (keyword : Keyword) : Except Failure (Option Validator) :=
  match keyword.metaSchema with
  | none => .ok none
  | some schema =>
    match Validator.standalone? schema with
    | some validator => .ok (some validator)
    | none => .error (.keyword (Text.trim keyword.name) "invalid meta-schema: not a usable schema")

def addKeyword (engine : Engine) (keyword : Keyword) : Except Failure Engine :=
  match engine.keywordFault? keyword with
  | some fault => .error fault
  | none => do
    let validator ← valueValidator keyword
    pure { engine with
      keywords := engine.keywords ++ [⟨keyword, validator⟩]
      generation := engine.generation + 1 }

/-- Sets whether formats are asserted; only a different setting is a change. -/
def configure (engine : Engine) (assertsFormats : Bool) : Engine :=
  if engine.assertsFormats = assertsFormats then engine
  else { engine with assertsFormats, generation := engine.generation + 1 }

/-! ## Compilation -/

/-- The first value of an installed keyword in a document that does not satisfy the schema of its
values, with the name of the keyword. -/
def wrongValue? (keywords : List InstalledKeyword) (document : Value) : Option (String × Value) :=
  keywords.findSome? fun installed =>
    installed.validator.bind fun validator =>
      ((Keyword.occurrences installed.keyword.name document).find? fun value =>
        !validator.isValid value).map fun value => (installed.keyword.name, value)

/-- A document with all installed keywords expanded, in order of installation. -/
def expandAll (keywords : List InstalledKeyword) (document : Value) : Value :=
  keywords.foldl (fun document installed => installed.keyword.expandIn document) document

/-- The self-contained document to compile: bundled, checked and expanded. -/
def prepare (engine : Engine) (name : String) (document : Value) (resolver : Resolver) :
    Except Failure Value := do
  let bundled ← bundle name document resolver
  match wrongValue? engine.keywords bundled with
  | some (keyword, value) =>
    .error (.compile name ("invalid value " ++ value.compact ++ " for keyword '" ++ keyword ++ "'"))
  | none => pure (expandAll engine.keywords bundled)

def compile (engine : Engine) (serial : Nat) (name : String) (prepared : Value) :
    Except Failure Compiled :=
  match Validator.ofSchema? prepared engine.formats engine.assertsFormats with
  | some validator => .ok ⟨serial, name, validator⟩
  | none => .error (.compile name "not a usable schema")

end Engine

end Schemata
