/-!
# Reading position and faults

A reader walks a text character by character and counts bytes. A fault names what is wrong and the
byte after which it shows; its place is the line and the number of bytes on that line.
-/

namespace Schemata.Json

/-- What can be wrong with a JSON text. -/
inductive Fault where
  | endInValue
  | endInObject
  | endInList
  | endInString
  | expectedValue
  | expectedLiteral
  | expectedColon
  | expectedObjectSeparator
  | expectedListSeparator
  | keyNotString
  | trailingComma
  | trailingCharacters
  | invalidNumber
  | numberOutOfRange
  | invalidEscape
  | loneSurrogate
  | endOfHexEscape
  | controlCharacter
  | nestedTooDeep
  deriving DecidableEq, Repr

def Fault.text : Fault → String
  | .endInValue => "EOF while parsing a value"
  | .endInObject => "EOF while parsing an object"
  | .endInList => "EOF while parsing a list"
  | .endInString => "EOF while parsing a string"
  | .expectedValue => "expected value"
  | .expectedLiteral => "expected ident"
  | .expectedColon => "expected `:`"
  | .expectedObjectSeparator => "expected `,` or `\x7d`"
  | .expectedListSeparator => "expected `,` or `]`"
  | .keyNotString => "key must be a string"
  | .trailingComma => "trailing comma"
  | .trailingCharacters => "trailing characters"
  | .invalidNumber => "invalid number"
  | .numberOutOfRange => "number out of range"
  | .invalidEscape => "invalid escape"
  | .loneSurrogate => "lone leading surrogate in hex escape"
  | .endOfHexEscape => "unexpected end of hex escape"
  | .controlCharacter => "control character (\\u0000-\\u001F) found while parsing a string"
  | .nestedTooDeep => "recursion limit exceeded"

/-- A fault with the number of bytes read when it showed. -/
structure FaultAt where
  fault : Fault
  offset : Nat
  deriving DecidableEq, Repr

/-- What is left to read, and the number of bytes before it. -/
structure Cursor where
  rest : List Char
  offset : Nat
  deriving Repr

namespace Cursor

def start (text : String) : Cursor := ⟨text.toList, 0⟩

/-- The next character. -/
def peek? (c : Cursor) : Option Char := c.rest.head?

/-- Behind the next character. -/
def advance (c : Cursor) : Cursor :=
  match c.rest with
  | [] => c
  | x :: xs => ⟨xs, c.offset + x.utf8Size⟩

/-- A fault seen in what was read already. -/
def behind {α : Type} (c : Cursor) (fault : Fault) : Except FaultAt α := .error ⟨fault, c.offset⟩

/-- A fault seen in the next byte; at the end of the text there is none to count. -/
def ahead {α : Type} (c : Cursor) (fault : Fault) : Except FaultAt α :=
  .error ⟨fault, if c.rest.isEmpty then c.offset else c.offset + 1⟩

def skipBlanks (c : Cursor) : Cursor := go c.rest c.offset
where
  /-- One character at a time. -/
  go : List Char → Nat → Cursor
    | [], offset => ⟨[], offset⟩
    | x :: xs, offset =>
      if x = ' ' || x = '\n' || x = '\t' || x = '\r' then go xs (offset + 1) else ⟨x :: xs, offset⟩

end Cursor

/-- The line of a byte offset, from one, and the bytes before it on that line. -/
def placeOf (text : String) (offset : Nat) : Nat × Nat := go text.toList 0 1 0
where
  /-- Walks to the offset with the bytes read, the line and the bytes on it. -/
  go : List Char → Nat → Nat → Nat → Nat × Nat
    | [], _, line, column => (line, column)
    | x :: xs, seen, line, column =>
      if offset ≤ seen then (line, column)
      else if offset < seen + x.utf8Size then (line, column + (offset - seen))
      else if x = '\n' then go xs (seen + 1) (line + 1) 0
      else go xs (seen + x.utf8Size) line (column + x.utf8Size)

def FaultAt.describe (f : FaultAt) (text : String) : String :=
  let (line, column) := placeOf text f.offset
  f.fault.text ++ " at line " ++ toString line ++ " column " ++ toString column

end Schemata.Json
