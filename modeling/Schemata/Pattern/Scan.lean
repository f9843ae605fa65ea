import Schemata.Pattern.Basic
import Schemata.Pattern.Fault
import Schemata.Unicode.TextClasses

/-!
# Scanning pattern text

A position in a pattern text, and the small steps that every reader of patterns is made of. In
extended mode blanks and comments between the parts of a pattern are skipped.
-/

namespace Schemata.Pattern

/-- What is left of a pattern text. -/
structure Scan where
  /-- The characters from here on. -/
  rest : List Char
  /-- How many characters lie before. -/
  offset : Nat
  /-- Whether blanks and comments are skipped. -/
  extended : Bool

namespace Scan

open Unicode (isWhiteSpace)

def ofString (text : String) : Scan := ⟨text.toList, 0, false⟩

/-- The scan behind `n` characters. -/
def advance (scan : Scan) (n : Nat) : Scan :=
  { scan with rest := scan.rest.drop n, offset := scan.offset + n }

/-- How many characters of blanks and comments come first, from inside a comment or not. A comment
goes from its hash sign through the end of the line. -/
def blankLength : Bool → List Char → Nat
  | _, [] => 0
  | true, c :: rest => blankLength (c ≠ '\n') rest + 1
  | false, c :: rest =>
    if isWhiteSpace c then blankLength false rest + 1
    else if c = '#' then blankLength true rest + 1
    else 0

def skipBlanks (scan : Scan) : Scan :=
  if scan.extended then scan.advance (blankLength false scan.rest) else scan

def next (scan : Scan) : Scan := (scan.advance 1).skipBlanks

/-- The current character. -/
def char? (scan : Scan) : Option Char := scan.rest.head?

/-- Whether the current character is the given one. -/
def at? (scan : Scan) (c : Char) : Bool := scan.char? = some c

/-- Whether nothing is left. -/
def atEnd (scan : Scan) : Bool := scan.rest.isEmpty

/-- The scan behind a word, if the word comes next. -/
def behind? (scan : Scan) (word : String) : Option Scan :=
  if word.toList.isPrefixOf scan.rest then some (scan.advance word.length) else none

/-- The character after the current one. -/
def peek? (scan : Scan) : Option Char := (scan.rest.drop 1).head?

/-- The character after the current one, past blanks. Behind a hash sign this is the first
character of the comment that is no blank. -/
def peekPastBlanks? (scan : Scan) : Option Char :=
  if scan.extended then
    let after := scan.rest.drop 1
    match after.dropWhile isWhiteSpace with
    | [] => after.head?
    | c :: tail =>
      if c = '#' then
        match tail.dropWhile isWhiteSpace with
        | [] => after.head?
        | c' :: _ => some c'
      else some c
  else scan.peek?

/-- The characters that satisfy a test, up to the first that does not, with the blanks between them
skipped; and the scan behind them. -/
def takeSpaced (test : Char → Bool) (scan : Scan) : List Char × Scan := go scan.rest.length scan
where
  /-- At most `fuel` characters. -/
  go : Nat → Scan → List Char × Scan
    | 0, scan => ([], scan)
    | fuel + 1, scan =>
      match scan.char? with
      | none => ([], scan)
      | some c =>
        if test c then
          let (chars, scan) := go fuel scan.next
          (c :: chars, scan)
        else ([], scan)

/-- The stretch from an offset up to here. -/
def since (scan : Scan) (start : Nat) : Span := ⟨start, scan.offset⟩

end Scan

end Schemata.Pattern
