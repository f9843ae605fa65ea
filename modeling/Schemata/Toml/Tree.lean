import Schemata.Settings.Item

/-!
# Tables under construction

A document of TOML opens tables by headers and by keys with dots, and says every thing once: a key has
one value, and a table one header. `Node` keeps how a table came about, as that decides what may
still be added to it.
-/

namespace Schemata.Toml

open Schemata.Settings (Item)

/-- How a table came about. -/
inductive Origin where
  /-- By a header of its own. -/
  | header
  /-- On the way to the table of another header. -/
  | passage
  /-- By a key with dots. -/
  | dots
  deriving DecidableEq, Repr

/-- A part of a document. -/
inductive Node where
  /-- A value, to which nothing can be added. -/
  | value (item : Item)
  /-- A table. -/
  | table (origin : Origin) (entries : List (String × Node))
  /-- Tables in a row, each with its entries. -/
  | tables (rows : List (List (String × Node)))
  deriving Inhabited

/-- A table with what it came about by. -/
structure Section where
  /-- How it came about. -/
  origin : Origin
  /-- The entries. -/
  entries : List (String × Node)

namespace Section

/-- The empty document. -/
def start : Section := ⟨.header, []⟩

/-- Changes the last of some tables in a row. -/
def onLast (change : Section → Option Section) :
    List (List (String × Node)) → Option (List (List (String × Node)))
  | [] => none
  | [row] => (change ⟨.header, row⟩).map fun changed => [changed.entries]
  | row :: rows => (onLast change rows).map (row :: ·)

/-- Changes the table at the end of some keys. Tables that are missing are made; `origin` says how.
A key with dots does not lead into a table with a header. -/
def change (origin : Origin) (f : Section → Option Section) : List String → Section → Option Section
  | [], s => f s
  | key :: keys, s =>
    let put (node : Node) : Section := { s with entries := Entries.put s.entries key node }
    match Entries.get? s.entries key with
    | none => (change origin f keys ⟨origin, []⟩).map fun t => put (.table t.origin t.entries)
    | some (.value _) => none
    | some (.tables rows) => (onLast (change origin f keys) rows).map fun rows => put (.tables rows)
    | some (.table existing entries) =>
      if origin = .dots ∧ existing = .header then none
      else (change origin f keys ⟨existing, entries⟩).map fun t => put (.table t.origin t.entries)

/-- Opens the table of a header. Only a table on the way to another one may be there already. -/
def openTable (key : String) (s : Section) : Option Section :=
  let put (entries : List (String × Node)) : Section :=
    { s with entries := Entries.put s.entries key (.table .header entries) }
  match Entries.get? s.entries key with
  | none => some (put [])
  | some (.table .passage entries) => some (put entries)
  | some _ => none

def openRow (key : String) (s : Section) : Option Section :=
  let put (rows : List (List (String × Node))) : Section :=
    { s with entries := Entries.put s.entries key (.tables rows) }
  match Entries.get? s.entries key with
  | none => some (put [[]])
  | some (.tables rows) => some (put (rows ++ [[]]))
  | some _ => none

/-- Gives a key its value. A table that was made by dots takes values by dots only, and all others
by simple keys only. -/
def addValue (dotted : Bool) (key : String) (item : Item) (s : Section) : Option Section :=
  if (s.origin = .dots) ≠ dotted then none
  else if Entries.hasKey s.entries key then none
  else some { s with entries := Entries.put s.entries key (.value item) }

def addKey (keys : List String) (item : Item) (s : Section) : Option Section :=
  match keys.getLast? with
  | none => none
  | some key =>
    let path := keys.dropLast
    change .dots (addValue (!path.isEmpty) key item) path s

def addHeader (row : Bool) (keys : List String) (s : Section) : Option Section :=
  match keys.getLast? with
  | none => none
  | some key => change .passage (if row then openRow key else openTable key) keys.dropLast s

end Section

mutual
def Node.item : Node → Item
  | .value item => item
  | .table _ entries => .table (entriesItem entries)
  | .tables rows => .list (rowsItem rows)

def entriesItem : List (String × Node) → List (String × Item)
  | [] => []
  | (key, node) :: entries => (key, node.item) :: entriesItem entries

def rowsItem : List (List (String × Node)) → List Item
  | [] => []
  | row :: rows => .table (entriesItem row) :: rowsItem rows
end

end Schemata.Toml
