import Schemata.Unicode.GeneralCategory
import Schemata.Unicode.BinaryProperty

/-!
# White space, digits and words

The classes of characters that text is read by. Each is an explicit part over the first 128 code
points and a part above them, so that what holds of ASCII can be read off.
-/

namespace Schemata.Unicode

/-- The part of a set above the first 128 code points, for sets that have no range across. -/
def beyondAscii (set : CodeRanges) : CodeRanges := set.filter fun range => 128 ≤ range.1

def whiteSpace : CodeRanges :=
  [(9, 13), (32, 32), (0x85, 0x85), (0xA0, 0xA0), (0x1680, 0x1680), (0x2000, 0x200A),
    (0x2028, 0x2029), (0x202F, 0x202F), (0x205F, 0x205F), (0x3000, 0x3000)]

def isWhiteSpace (c : Char) : Bool := whiteSpace.contains c.toNat

def decimalDigits : CodeRanges := (48, 57) :: beyondAscii (inCategory (· = "Nd"))

def alphabetic : CodeRanges := readGaps alphabeticText

/-- Whether a character is a letter. -/
def isAlphabetic (c : Char) : Bool := alphabetic.contains c.toNat

/-- The numbers of all scripts. -/
def numeric : CodeRanges := inCategory fun category => category.startsWith "N"

/-- Whether a character is a number. -/
def isNumeric (c : Char) : Bool := numeric.contains c.toNat

/-- The characters of words: letters, marks, digits, joining punctuation and joiners. -/
def wordCharacters : CodeRanges :=
  [(48, 57), (65, 90), (95, 95), (97, 122)] ++
    beyondAscii (CodeRanges.ofList (alphabetic ++ readGaps joinControlText ++
      inCategory fun category => category.startsWith "M" || category = "Nd" || category = "Pc"))

def isWordCharacter (c : Char) : Bool := wordCharacters.contains c.toNat

def asciiWordCharacters : CodeRanges := [(48, 57), (65, 90), (95, 95), (97, 122)]

end Schemata.Unicode
