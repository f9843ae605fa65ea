import Schemata.Settings.Item
import Schemata.Text.Words

/-!
# Settings from the environment

Variables whose names start with `SCHEMAS__` are settings, however the names are capitalised. Two
underscores further on in a name divide the steps of a path, and what a variable holds is read as
true or false or as a number where it spells one.
-/

namespace Schemata.Settings

def variableItem (value : String) : Item :=
  let word := Unicode.lowerText value
  if word = "true" then .bool true
  else if word = "false" then .bool false
  else
    let (negative, digits) := Binary64.splitSign value.toList
    let n : Int := Binary64.natOfDigits digits
    let signed := if negative then -n else n
    if !digits.isEmpty && digits.all Char.isDigit && -(Nat.pow 2 63 : Int) ≤ signed &&
        signed < Nat.pow 2 63 then
      .integer signed
    else
      match Binary64.ofNumeral? value with
      | some x => .float x
      | none => .text value

def variablePath? (name : String) : Option String :=
  let key := Unicode.lowerText name
  let start := "schemas__"
  if start.toList.isPrefixOf key.toList then
    some (".".intercalate ((String.ofList (key.toList.drop start.length)).splitOn "__"))
  else none

def ofEnvironment (entries : List (String × String)) : List (String × Item) :=
  entries.filterMap fun (name, value) =>
    (variablePath? name).map fun path => (path, variableItem value)

end Schemata.Settings
