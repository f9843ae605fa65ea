import Schemata.Json.Value
import Schemata.Number.Shortest

/-!
# Writing JSON

Two layouts of the same text: compact, without any blank, and indented by two blanks a level.
Strings escape the quote, the backslash and the control characters only; members come in the order
in which the object holds them.
-/

namespace Schemata.Json

/-! ## Strings and numbers -/

/-- Four hexadecimal digits, lower case. -/
def hexFour (n : Nat) : List Char :=
  let digits := Nat.toDigits 16 n
  List.replicate (4 - digits.length) '0' ++ digits

/-- A character inside a JSON string. -/
def escapeChar (c : Char) : List Char :=
  if c = '"' then ['\\', '"']
  else if c = '\\' then ['\\', '\\']
  else if c = '\x08' then ['\\', 'b']
  else if c = '\x0c' then ['\\', 'f']
  else if c = '\n' then ['\\', 'n']
  else if c = '\r' then ['\\', 'r']
  else if c = '\t' then ['\\', 't']
  else if c.toNat < 0x20 then ['\\', 'u'] ++ hexFour c.toNat
  else [c]

def quote (s : String) : String :=
  String.ofList ('"' :: s.toList.flatMap escapeChar ++ ['"'])

def Number.text : Number → String
  | .integer i => toString i
  | .double x => x.scientific

namespace Value

/-! ## Compact layout -/

mutual
/-- The text of a document without blanks. -/
def compact : Value → String
  | .null => "null"
  | .bool true => "true"
  | .bool false => "false"
  | .number n => n.text
  | .string s => quote s
  | .array items => "[" ++ compactItems items ++ "]"
  | .object members => "\x7b" ++ compactMembers members ++ "\x7d"

/-- The texts of items, separated by commas. -/
def compactItems : List Value → String
  | [] => ""
  | [v] => v.compact
  | v :: rest => v.compact ++ "," ++ compactItems rest

/-- The texts of members, separated by commas. -/
def compactMembers : List (String × Value) → String
  | [] => ""
  | [(k, v)] => quote k ++ ":" ++ v.compact
  | (k, v) :: rest => quote k ++ ":" ++ v.compact ++ "," ++ compactMembers rest
end

/-! ## Indented layout -/

def newLine (level : Nat) : String := "\n" ++ String.ofList (List.replicate (2 * level) ' ')

mutual
/-- The text of a document with one item or member a line; empty containers stay on theirs. -/
def indented (level : Nat) : Value → String
  | .array [] => "[]"
  | .array items => "[" ++ indentedItems (level + 1) items ++ newLine level ++ "]"
  | .object [] => "\x7b\x7d"
  | .object members => "\x7b" ++ indentedMembers (level + 1) members ++ newLine level ++ "\x7d"
  | .null => "null"
  | .bool true => "true"
  | .bool false => "false"
  | .number n => n.text
  | .string s => quote s

def indentedItems (level : Nat) : List Value → String
  | [] => ""
  | [v] => newLine level ++ v.indented level
  | v :: rest => newLine level ++ v.indented level ++ "," ++ indentedItems level rest

def indentedMembers (level : Nat) : List (String × Value) → String
  | [] => ""
  | [(k, v)] => newLine level ++ quote k ++ ": " ++ v.indented level
  | (k, v) :: rest => newLine level ++ quote k ++ ": " ++ v.indented level ++ "," ++ indentedMembers level rest
end

/-- The indented text of a whole document. -/
def pretty (document : Value) : String := document.indented 0

end Value

end Schemata.Json
