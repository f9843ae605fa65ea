import Schemata.Unicode.TextClasses

/-!
# Small text operations

Trimming and cutting of texts, by characters.
-/

namespace Schemata.Text

/-- A text without white space at its ends. -/
def trim (text : String) : String :=
  let front := text.toList.dropWhile Unicode.isWhiteSpace
  String.ofList (front.reverse.dropWhile Unicode.isWhiteSpace).reverse

/-- Whether a text holds white space only. -/
def isBlank (text : String) : Bool := text.toList.all Unicode.isWhiteSpace

/-- The parts of a text before and behind the first occurrence of a character. -/
def splitAt? (c : Char) (text : String) : Option (String × String) :=
  match text.toList.dropWhile (· ≠ c) with
  | [] => none
  | _ :: behind => some (String.ofList (text.toList.takeWhile (· ≠ c)), String.ofList behind)

/-- The part of a text before the first occurrence of a character, or all of it. -/
def before (c : Char) (text : String) : String := String.ofList (text.toList.takeWhile (· ≠ c))

/-- The part of a text behind the first occurrence of a character; none is left without one. -/
def behind (c : Char) (text : String) : String :=
  String.ofList ((text.toList.dropWhile (· ≠ c)).drop 1)

/-- The parts of characters between the occurrences of one. -/
def splitChars (c : Char) : List Char → List (List Char)
  | [] => [[]]
  | d :: rest =>
    if d = c then [] :: splitChars c rest
    else
      match splitChars c rest with
      | [] => [[d]]
      | part :: parts => (d :: part) :: parts

/-- The parts of a text between the occurrences of a character; there is always one. -/
def splitAll (c : Char) (text : String) : List String := (splitChars c text.toList).map String.ofList

def startsWith (c : Char) (text : String) : Bool := text.toList.head? = some c

def endsWith (c : Char) (text : String) : Bool := text.toList.getLast? = some c

def dropSuffix? (ending text : String) : Option String :=
  if ending.toList.isSuffixOf text.toList then
    some (String.ofList (text.toList.take (text.length - ending.length)))
  else none

end Schemata.Text
