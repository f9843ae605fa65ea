import Schemata.Unicode.GeneralCategory
import Schemata.Unicode.BinaryProperty

/-!
# Quoted lists

Lists of texts for a reader's eye: each text in double quotes, with what cannot be seen escaped.
-/

namespace Schemata.Text

open Unicode (CodeRanges)

/-- The characters without a visible form of their own: controls, formats, unassigned and private
characters, separators except the blank, and marks that join the character before them. -/
def hiddenCharacters : CodeRanges :=
  let hidden := ["Cc", "Cf", "Cs", "Co", "Cn", "Zl", "Zp", "Zs"]
  CodeRanges.difference
    (CodeRanges.union (Unicode.inCategory hidden.contains) (Unicode.readGaps Unicode.graphemeExtendText))
    (CodeRanges.single ' ')

/-- A character inside quotes. -/
def escapeVisibly (c : Char) : String :=
  if c = '\x00' then "\\0"
  else if c = '\t' then "\\t"
  else if c = '\r' then "\\r"
  else if c = '\n' then "\\n"
  else if c = '"' then "\\\""
  else if c = '\\' then "\\\\"
  else if hiddenCharacters.contains c.toNat then
    "\\u\x7b" ++ String.ofList (Nat.toDigits 16 c.toNat) ++ "\x7d"
  else String.singleton c

def quoteVisibly (text : String) : String :=
  "\"" ++ String.join (text.toList.map escapeVisibly) ++ "\""

def quotedList (texts : List String) : String :=
  "[" ++ String.intercalate ", " (texts.map quoteVisibly) ++ "]"

end Schemata.Text
