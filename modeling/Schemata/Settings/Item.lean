import Schemata.Entries
import Schemata.Number.Shortest
import Schemata.Number.Decimal
import Schemata.Unicode.LowerText

/-!
# Items

What sources of settings hold before it is known what is meant: texts, numbers, lists and tables. An
item is read leniently: a text may spell a number and a number may stand for true or false.
-/

namespace Schemata.Settings

/-- A value in a source of settings. -/
inductive Item where
  /-- Nothing. -/
  | nothing
  /-- True or false. -/
  | bool (value : Bool)
  /-- A whole number. -/
  | integer (value : Int)
  /-- A binary64 number, perhaps infinite or none. -/
  | float (value : Binary64)
  /-- A text. -/
  | text (value : String)
  /-- A list. -/
  | list (items : List Item)
  /-- Items by name. -/
  | table (entries : List (String × Item))
  deriving Inhabited

namespace Item

def spellFloat (x : Binary64) : String :=
  if x.isNan then "NaN"
  else if x.isFinite then x.positional
  else if x.isNegative then "-inf" else "inf"

def bool? : Item → Option Bool
  | bool b => some b
  | integer i => some (i ≠ 0)
  | float x => some !x.isZero
  | text s =>
    let word := Unicode.lowerText s
    if ["1", "true", "on", "yes"].contains word then some true
    else if ["0", "false", "off", "no"].contains word then some false
    else none
  | _ => none

/-- The greatest number of 64 bits. -/
def wordLimit : Nat := Nat.pow 2 64 - 1

/-- The number of 64 bits that some digits spell, perhaps behind a plus sign. -/
def wordOfDigits? (s : String) : Option Nat :=
  let digits := match s.toList with
    | '+' :: rest => rest
    | rest => rest
  if digits.isEmpty || !digits.all Char.isDigit then none
  else
    let n := Binary64.natOfDigits digits
    if n ≤ wordLimit then some n else none

/-- An item as a number of 64 bits without a sign. Fractions are rounded, and what is out of range is
moved to its end. -/
def word? : Item → Option Nat
  | bool b => some (if b then 1 else 0)
  | integer i => if 0 ≤ i ∧ i ≤ wordLimit then some i.toNat else none
  | float x =>
    if x.isNan ∨ x.isNegative then some 0
    else if x.isFinite then some (min x.roundedMagnitude wordLimit)
    else some wordLimit
  | text s =>
    let word := Unicode.lowerText s
    if ["true", "on", "yes"].contains word then some 1
    else if ["false", "off", "no"].contains word then some 0
    else wordOfDigits? s
  | _ => none

def text? : Item → Option String
  | text s => some s
  | bool b => some (if b then "true" else "false")
  | integer i => some (toString i)
  | float x => some (spellFloat x)
  | _ => none

/-- The entries of a table; anything else has none. -/
def entries : Item → List (String × Item)
  | table entries => entries
  | _ => []

/-- The items of a list; anything else has none. -/
def items : Item → List Item
  | list items => items
  | _ => []

end Item

end Schemata.Settings
