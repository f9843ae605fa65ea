import Schemata.Unicode.CaseMap
import Schemata.Unicode.BinaryProperty
import Schemata.Unicode.Runs

/-!
# Lower-case texts

The lower-case form of a text, character by character. Only a capital sigma depends on what stands
around it: at the end of a word it has a form of its own.
-/

namespace Schemata.Unicode

def casedCharacters : CodeRanges := readGaps casedText

/-- The characters that do not count when one looks for the end of a word. -/
def caseIgnorableCharacters : CodeRanges := readGaps caseIgnorableText

def meetsCased (chars : List Char) : Bool :=
  match chars.dropWhile fun c => caseIgnorableCharacters.contains c.toNat with
  | [] => false
  | c :: _ => casedCharacters.contains c.toNat

/-- The lower-case form of characters behind others, which are in reverse order. -/
def lowerBehind (before : List Char) : List Char → List Char
  | [] => []
  | c :: rest =>
    let form :=
      if c = 'Σ' ∧ meetsCased before ∧ ¬ meetsCased rest then ['ς'] else lowercase c
    form ++ lowerBehind (c :: before) rest

def lowerText (text : String) : String := String.ofList (lowerBehind [] text.toList)

end Schemata.Unicode
