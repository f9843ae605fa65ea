import Schemata.Json.Numeral

/-!
# Reading JSON

The reader of a whole text, and the faults it reports. Of several members with one key the last
counts. Containers nest at most 127 deep.

    Value.read text = .ok v             `text` is one document with blanks around it
    Value.read text = .error f          the first fault, with its place
-/

namespace Schemata.Json

/-! ## Strings -/

def hexValue? (c : Char) : Option Nat :=
  if c.isDigit then some (c.toNat - 48)
  else if 'a' ≤ c && c ≤ 'f' then some (c.toNat - 87)
  else if 'A' ≤ c && c ≤ 'F' then some (c.toNat - 55)
  else none

/-- The value of a digit string in base 16. -/
def hexNumber? (cs : List Char) : Option Nat :=
  cs.foldl (fun n c => do return (← n) * 16 + (← hexValue? c)) (some 0)

def readHexFour (c : Cursor) : Except FaultAt (Nat × Cursor) :=
  let four := c.rest.take 4
  let bytes := four.foldl (fun bytes digit => bytes + digit.utf8Size) 0
  if bytes < 4 then .error ⟨.endInString, c.offset + bytes⟩
  else
    match hexNumber? four with
    | some n => .ok (n, ⟨c.rest.drop 4, c.offset + 4⟩)
    | none => .error ⟨.invalidEscape, c.offset + 4⟩

/-- Demands one character of the second half of a surrogate pair. -/
def expectInPair (c : Cursor) (wanted : Char) : Except FaultAt Cursor :=
  match c.peek? with
  | none => c.behind .endInString
  | some x => if x = wanted then .ok c.advance else .error ⟨.endOfHexEscape, c.offset + 1⟩

/-- A numeric escape, behind its letter; two surrogates make one character. -/
def readUnicodeEscape (c : Cursor) : Except FaultAt (Char × Cursor) := do
  let (n, c) ← readHexFour c
  if 0xDC00 ≤ n ∧ n ≤ 0xDFFF then c.behind .loneSurrogate
  else if n < 0xD800 ∨ 0xDBFF < n then .ok (Char.ofNat n, c)
  else
    let c ← expectInPair c '\\'
    let c ← expectInPair c 'u'
    let (m, c) ← readHexFour c
    if m < 0xDC00 ∨ 0xDFFF < m then c.behind .loneSurrogate
    else .ok (Char.ofNat ((n - 0xD800) * 0x400 + (m - 0xDC00) + 0x10000), c)

def readEscape (c : Cursor) : Except FaultAt (Char × Cursor) :=
  match c.peek? with
  | none => c.behind .endInString
  | some '"' => .ok ('"', c.advance)
  | some '\\' => .ok ('\\', c.advance)
  | some '/' => .ok ('/', c.advance)
  | some 'b' => .ok ('\x08', c.advance)
  | some 'f' => .ok ('\x0c', c.advance)
  | some 'n' => .ok ('\n', c.advance)
  | some 'r' => .ok ('\r', c.advance)
  | some 't' => .ok ('\t', c.advance)
  | some 'u' => readUnicodeEscape c.advance
  | some _ => .error ⟨.invalidEscape, c.offset + 1⟩

/-- The rest of a string, behind its first quote; `read` holds its characters backwards. -/
def readString (c : Cursor) (read : List Char) : Nat → Except FaultAt (String × Cursor)
  | 0 => c.behind .endInString
  | fuel + 1 =>
    match c.peek? with
    | none => c.behind .endInString
    | some '"' => .ok (String.ofList read.reverse, c.advance)
    | some '\\' => do
      let (x, c) ← readEscape c.advance
      readString c (x :: read) fuel
    | some x =>
      if x.toNat < 0x20 then .error ⟨.controlCharacter, c.offset + 1⟩
      else readString c.advance (x :: read) fuel

/-! ## Documents -/

/-- The literal that goes on with the given characters. -/
def readLiteral (c : Cursor) (value : Value) : List Char → Except FaultAt (Value × Cursor)
  | [] => .ok (value, c)
  | wanted :: more =>
    match c.peek? with
    | none => c.behind .endInValue
    | some x => if x = wanted then readLiteral c.advance value more else .error ⟨.expectedLiteral, c.offset + 1⟩

/-- Demands the colon between a key and its value. -/
def readColon (c : Cursor) : Except FaultAt Cursor :=
  let c := c.skipBlanks
  match c.peek? with
  | some ':' => .ok c.advance
  | some _ => c.ahead .expectedColon
  | none => c.ahead .endInObject

mutual
/-- One document; `depth` more containers may be opened. -/
def readValue (depth : Nat) (c : Cursor) : Nat → Except FaultAt (Value × Cursor)
  | 0 => c.ahead .endInValue
  | fuel + 1 =>
    let c := c.skipBlanks
    match c.peek? with
    | none => c.ahead .endInValue
    | some 'n' => readLiteral c.advance .null ['u', 'l', 'l']
    | some 't' => readLiteral c.advance (.bool true) ['r', 'u', 'e']
    | some 'f' => readLiteral c.advance (.bool false) ['a', 'l', 's', 'e']
    | some '-' => do
      let (n, c) ← readNumber c.advance false
      .ok (.number n, c)
    | some '"' => do
      let (s, c) ← readString c.advance [] (c.rest.length + 1)
      .ok (.string s, c)
    | some '[' =>
      match depth with
      | 0 => c.ahead .nestedTooDeep
      | depth + 1 => readItems depth c.advance [] fuel
    | some '\x7b' =>
      match depth with
      | 0 => c.ahead .nestedTooDeep
      | depth + 1 => readMembers depth c.advance [] true fuel
    | some x =>
      if x.isDigit then do
        let (n, c) ← readNumber c true
        .ok (.number n, c)
      else c.ahead .expectedValue
termination_by structural fuel => fuel

/-- The rest of an array; `read` holds its items backwards. -/
def readItems (depth : Nat) (c : Cursor) (read : List Value) : Nat → Except FaultAt (Value × Cursor)
  | 0 => c.ahead .endInList
  | fuel + 1 =>
    let c := c.skipBlanks
    match c.peek? with
    | none => c.ahead .endInList
    | some ']' => .ok (.array read.reverse, c.advance)
    | some x =>
      if read.isEmpty then do
        let (v, c) ← readValue depth c fuel
        readItems depth c [v] fuel
      else if x = ',' then
        let c := c.advance.skipBlanks
        match c.peek? with
        | some ']' => c.ahead .trailingComma
        | none => c.ahead .endInValue
        | some _ => do
          let (v, c) ← readValue depth c fuel
          readItems depth c (v :: read) fuel
      else c.ahead .expectedListSeparator
termination_by structural fuel => fuel

/-- The rest of an object; `read` holds the members so far. -/
def readMembers (depth : Nat) (c : Cursor) (read : List (String × Value)) (first : Bool) :
    Nat → Except FaultAt (Value × Cursor)
  | 0 => c.ahead .endInObject
  | fuel + 1 =>
    let c := c.skipBlanks
    match c.peek? with
    | none => c.ahead .endInObject
    | some '\x7d' => .ok (.object read, c.advance)
    | some x =>
      if x = ',' && !first then
        let c := c.advance.skipBlanks
        match c.peek? with
        | some '"' => readMember depth c read fuel
        | some '\x7d' => c.ahead .trailingComma
        | some _ => c.ahead .keyNotString
        | none => c.ahead .endInValue
      else if !first then c.ahead .expectedObjectSeparator
      else if x = '"' then readMember depth c read fuel
      else c.ahead .keyNotString
termination_by structural fuel => fuel

def readMember (depth : Nat) (c : Cursor) (read : List (String × Value)) :
    Nat → Except FaultAt (Value × Cursor)
  | 0 => c.ahead .endInObject
  | fuel + 1 => do
    let (key, c) ← readString c.advance [] (c.rest.length + 1)
    let c ← readColon c
    let (v, c) ← readValue depth c fuel
    readMembers depth c (Entries.put read key v) false fuel
termination_by structural fuel => fuel
end

def Value.read (text : String) : Except FaultAt Value := do
  let c := Cursor.start text
  let (v, c) ← readValue 127 c (3 * c.rest.length + 3)
  let c := c.skipBlanks
  if c.rest.isEmpty then .ok v else c.ahead .trailingCharacters

end Schemata.Json
