import Schemata.Toml.Scan
import Schemata.Toml.Scalar
import Schemata.Toml.Tree

/-!
# Documents of TOML

A document is read line by line: headers open tables, and keys take their values in the table that
was opened last.
-/

namespace Schemata.Toml

open Schemata.Settings (Item)

/-! ## Values -/

mutual
def readValue : Nat → List Char → Option (Item × List Char)
  | 0, _ => none
  | fuel + 1, cs =>
    match cs with
    | '[' :: rest => readItems fuel rest
    | '\x7b' :: rest =>
      match skipBlanks rest with
      | '\x7d' :: rest => some (.table [], rest)
      | rest => readInline fuel Section.start rest
    | '"' :: _ => (readString cs).map fun (text, rest) => (.text (String.ofList text), rest)
    | '\'' :: _ => (readString cs).map fun (text, rest) => (.text (String.ofList text), rest)
    | _ => readScalar cs

/-- The values of a list behind its opening bracket or a comma. -/
def readItems : Nat → List Char → Option (Item × List Char)
  | 0, _ => none
  | fuel + 1, cs => do
    match ← skipLines (cs.length + 1) cs with
    | ']' :: rest => pure (.list [], rest)
    | cs => do
      let (item, rest) ← readValue fuel cs
      match ← skipLines (rest.length + 1) rest with
      | ']' :: rest => pure (.list [item], rest)
      | ',' :: rest => do
        let (items, rest) ← readItems fuel rest
        pure (.list (item :: items.items), rest)
      | _ => none

/-- The keys and values of a table in braces behind the opening brace or a comma. -/
def readInline : Nat → Section → List Char → Option (Item × List Char)
  | 0, _, _ => none
  | fuel + 1, table, cs => do
    let (keys, rest) ← readKey (cs.length + 1) (skipBlanks cs)
    match skipBlanks rest with
    | '=' :: rest => do
      let (item, rest) ← readValue fuel (skipBlanks rest)
      let table ← table.addKey keys item
      match skipBlanks rest with
      | '\x7d' :: rest => pure (.table (entriesItem table.entries), rest)
      | ',' :: rest => readInline fuel table rest
      | _ => none
    | _ => none
end

/-! ## Lines -/

/-- The document so far, and the keys of the table that was opened last. -/
structure Progress where
  /-- The document so far. -/
  document : Section
  /-- The keys of the open table. -/
  opened : List String

/-- Reads the rest of a header behind its opening brackets, which ends in as many brackets. -/
def readHeader (row : Bool) (progress : Progress) (cs : List Char) :
    Option (Progress × List Char) := do
  let (keys, rest) ← readKey (cs.length + 1) (skipBlanks cs)
  let rest ← match row, skipBlanks rest with
    | true, ']' :: ']' :: rest => some rest
    | false, ']' :: rest => some rest
    | _, _ => none
  let document ← progress.document.addHeader row keys
  pure (⟨document, keys⟩, rest)

def readEntry (progress : Progress) (cs : List Char) : Option (Progress × List Char) := do
  let (keys, rest) ← readKey (cs.length + 1) cs
  match skipBlanks rest with
  | '=' :: rest => do
    let (item, rest) ← readValue (rest.length + 1) (skipBlanks rest)
    let document ← Section.change .passage (Section.addKey keys item) progress.opened progress.document
    pure ({ progress with document }, rest)
  | _ => none

/-- Reads what a line says, if it is not blank. -/
def readStatement (progress : Progress) (cs : List Char) : Option (Progress × List Char) :=
  match cs with
  | '[' :: '[' :: rest => readHeader true progress rest
  | '[' :: rest => readHeader false progress rest
  | _ => readEntry progress cs

/-- Reads all lines that are left. -/
def readAll : Nat → Progress → List Char → Option Section
  | 0, _, _ => none
  | fuel + 1, progress, cs => do
    match ← skipLines (cs.length + 1) cs with
    | [] => pure progress.document
    | cs => do
      let (progress, rest) ← readStatement progress cs
      readAll fuel progress (← finishLine rest)

/-- The table that a document describes. A mark of byte order in front does not count. -/
def read? (text : String) : Option Item :=
  let cs := match text.toList with
    | '\ufeff' :: rest => rest
    | cs => cs
  (readAll (cs.length + 1) ⟨Section.start, []⟩ cs).map fun document =>
    .table (entriesItem document.entries)

end Schemata.Toml
