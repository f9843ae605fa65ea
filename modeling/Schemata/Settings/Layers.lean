import Schemata.Settings.Item

/-!
# Layers of settings

Sources of settings lie over each other: tables are joined entry by entry, and anything else hides
what lies below it. Names are the same whatever their case. A name in the uppermost table may also be
a path to a place further in, as in `discovery.roots[0]`.
-/

namespace Schemata.Settings

namespace Item

/-! ## Joining -/

mutual
/-- Lays a value over the entry of a name. What is no table is taken for an empty one. -/
def assign (below : Item) (name : String) : Item → Item
  | .table incoming =>
    let key := Unicode.lowerText name
    let inner := (Entries.get? below.entries key).getD (.table [])
    .table (Entries.put below.entries key (assignAll inner incoming))
  | value => .table (Entries.put below.entries (Unicode.lowerText name) value)

/-- Lays entries over a value. Without entries the value stays what it is. -/
def assignAll (below : Item) : List (String × Item) → Item
  | [] => below
  | (name, value) :: incoming => assignAll (assign below name value) incoming
end

/-! ## Paths -/

/-- A step of a path behind its first name. -/
inductive Step where
  /-- To an entry of a table. -/
  | entry (name : String)
  /-- To an item of a list; from the end if negative. -/
  | place (index : Int)
  deriving DecidableEq, Repr

def isNameChar (c : Char) : Bool := c.isAlphanum || c = ' ' || c = '_' || c = '-'

/-- The name at the start of a text, and the rest. -/
def splitName? (cs : List Char) : Option (String × List Char) :=
  let name := cs.takeWhile isNameChar
  if name.isEmpty then none else some (String.ofList name, cs.drop name.length)

/-- An index in digits, perhaps with a minus sign. -/
def index? (cs : List Char) : Option Int :=
  let digits := if cs.head? = some '-' then cs.drop 1 else cs
  if digits.isEmpty || !digits.all Char.isDigit then none
  else
    let n : Int := Binary64.natOfDigits digits
    some (if cs.head? = some '-' then -n else n)

def steps? : Nat → List Char → Option (List Step)
  | _, [] => some []
  | 0, _ => none
  | fuel + 1, '.' :: rest => do
    let (name, rest) ← splitName? rest
    let steps ← steps? fuel rest
    pure (.entry name :: steps)
  | fuel + 1, '[' :: rest => do
    let inside := rest.takeWhile (· ≠ ']')
    let index ← index? inside
    match rest.drop inside.length with
    | ']' :: rest => (steps? fuel rest).map (.place index :: ·)
    | _ => none
  | _, _ => none

def path? (text : String) : Option (String × List Step) := do
  let (name, rest) ← splitName? text.toList
  let steps ← steps? rest.length rest
  pure (name, steps)

/-- A list with something else at a place; it is filled up as far as needed. -/
def setPlace (items : List Item) (place : Nat) (item : Item) : List Item :=
  (items ++ List.replicate (place + 1 - items.length) Item.nothing).set place item

/-- Lays a value over the end of some steps. -/
def assignAlong (below value : Item) : List Step → Item
  | [] => value
  | [.entry name] => assign below name value
  | .entry name :: steps =>
    let inner := (Entries.get? below.entries name).getD .nothing
    .table (Entries.put below.entries name (assignAlong inner value steps))
  | .place index :: steps =>
    let items := below.items
    let place := if 0 ≤ index then index.toNat else items.length - index.natAbs
    .list (setPlace items place (assignAlong (items.getD place .nothing) value steps))

/-- Lays a value over what a text leads to: a path, or else an entry of that name. -/
def assignPath (below : Item) (text : String) (value : Item) : Item :=
  let key := Unicode.lowerText text
  match path? key with
  | some (name, []) => assign below name value
  | some (name, steps) => assignAlong below value (.entry name :: steps)
  | none => assign below key value

def layOver (below : Item) (source : List (String × Item)) : Item :=
  source.foldl (fun below entry => assignPath below entry.1 entry.2) below

end Item

end Schemata.Settings
