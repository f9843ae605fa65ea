import Schemata.Pattern.Scan

/-!
# Escapes and single characters

Readers of the parts of a pattern that hold no other part: characters, escapes, one-letter classes,
classes of properties and assertions.
-/

namespace Schemata.Pattern

/-- A part without parts. -/
inductive Primitive where
  /-- A character. -/
  | literal (literal : Literal)
  /-- Any character. -/
  | dot (span : Span)
  /-- A condition on the position. -/
  | assertion (kind : Assertion)
  /-- A one-letter class. -/
  | perl (cls : PerlClass)
  /-- A class of a property. -/
  | property (cls : PropertyClass)

namespace Primitive

def toPattern : Primitive → Pattern
  | literal l => .literal l
  | dot span => .dot span
  | assertion kind => .assertion kind
  | perl cls => .perl cls
  | property cls => .property cls

def toClassItem : Primitive → Except Fault ClassSet
  | literal l => .ok (.literal l)
  | perl cls => .ok (.perl cls)
  | property cls => .ok (.property cls)
  | _ => .error .escapeInClass

def toRangeEnd : Primitive → Except Fault Literal
  | literal l => .ok l
  | _ => .error .classRangeBoundary

end Primitive

/-! ## Hexadecimal literals -/

def hexValue? (c : Char) : Option Nat :=
  if '0' ≤ c ∧ c ≤ '9' then some (c.toNat - 48)
  else if 'a' ≤ c ∧ c ≤ 'f' then some (c.toNat - 87)
  else if 'A' ≤ c ∧ c ≤ 'F' then some (c.toNat - 55)
  else none

def isHexDigit (c : Char) : Bool := (hexValue? c).isSome

/-- The character with a hexadecimal code. -/
def charOfHex (digits : List Char) : Except Fault Char :=
  let code := digits.foldl (fun n c => n * 16 + (hexValue? c).getD 0) 0
  if h : code.isValidChar then .ok (Char.ofNatAux code h) else .error .hexOutOfRange

def readHexDigits : Nat → Scan → Except Fault (List Char × Scan)
  | 0, scan => .ok ([], scan)
  | n + 1, scan =>
    match scan.char? with
    | none => .error .unfinishedEscape
    | some c =>
      if isHexDigit c then
        match readHexDigits n scan.next with
        | .ok (digits, scan) => .ok (c :: digits, scan)
        | .error fault => .error fault
      else .error .hexDigit

/-- Reads what follows the letter of a hexadecimal escape: digits in braces, or as many as the
letter asks for. -/
def readHex (start : Nat) (letter : Char) (scan : Scan) : Except Fault (Literal × Scan) := do
  let scan := scan.next
  if scan.atEnd then .error .unfinishedEscape
  else if scan.at? '{' then
    let (digits, scan) := scan.next.takeSpaced isHexDigit
    if scan.atEnd then .error .unfinishedEscape
    else if ¬ scan.at? '}' then .error .hexDigit
    else if digits.isEmpty then .error .emptyHex
    else
      let char ← charOfHex digits
      let scan := scan.next
      pure (⟨scan.since start, char, false⟩, scan)
  else
    let count := if letter = 'x' then 2 else if letter = 'u' then 4 else 8
    let (digits, scan) ← readHexDigits count scan
    let char ← charOfHex digits
    pure (⟨scan.since start, char, letter = 'x'⟩, scan)

/-! ## Classes -/

def findWord? (word : List Char) : List Char → Option Nat
  | [] => if word.isEmpty then some 0 else none
  | c :: rest =>
    if word.isPrefixOf (c :: rest) then some 0 else (findWord? word rest).map (· + 1)

def propertyQuery (text : List Char) : PropertyQuery :=
  let split (sign : String) : Option PropertyQuery :=
    (findWord? sign.toList text).map fun i =>
      .valued (String.ofList (text.take i)) (String.ofList (text.drop (i + sign.length)))
  ((split "!=" <|> split ":") <|> split "=").getD (.named (String.ofList text))

def readProperty (start : Nat) (negated : Bool) (scan : Scan) :
    Except Fault (PropertyClass × Scan) :=
  let scan := scan.next
  match scan.char? with
  | none => .error .unfinishedEscape
  | some c =>
    if c = '{' then
      let (text, scan) := scan.next.takeSpaced (· ≠ '}')
      if scan.atEnd then .error .unfinishedEscape
      else
        let scan := scan.advance 1
        .ok (⟨scan.since start, propertyQuery text, negated⟩, scan)
    else if c = '\\' then .error .propertyEscape
    else
      let scan := scan.advance 1
      .ok (⟨scan.since start, .named (String.singleton c), negated⟩, scan)

/-- The one-letter class of a letter, and whether it is the complement. -/
def perlClass? : Char → Option (PerlKind × Bool)
  | 'd' => some (.digit, false)
  | 'D' => some (.digit, true)
  | 's' => some (.space, false)
  | 'S' => some (.space, true)
  | 'w' => some (.word, false)
  | 'W' => some (.word, true)
  | _ => none

/-! ## Assertions -/

def namedBoundary? : String → Option Assertion
  | "start" => some .wordStart
  | "end" => some .wordEnd
  | "start-half" => some .wordStartHalf
  | "end-half" => some .wordEndHalf
  | _ => none

/-- Reads the braces behind a word boundary; braces that cannot hold a name are left to the reader
of counted repetitions. -/
def readBoundaryName (scan : Scan) : Except Fault (Assertion × Scan) :=
  if ¬ scan.at? '{' then .ok (.wordBoundary, scan)
  else
    let inside := scan.next
    let isNameChar (c : Char) : Bool := c.isAlpha || c = '-'
    match inside.char? with
    | none => .error .unfinishedWordBoundary
    | some c =>
      if ¬ isNameChar c then .ok (.wordBoundary, scan)
      else
        let (name, scan) := inside.takeSpaced isNameChar
        if ¬ scan.at? '}' then .error .unclosedWordBoundary
        else
          match namedBoundary? (String.ofList name) with
          | some kind => .ok (kind, scan.advance 1)
          | none => .error .unknownWordBoundary

/-! ## Escapes -/

/-- The characters with a meaning of their own somewhere in a pattern. -/
def isMeta (c : Char) : Bool := "\\.+*?()|[]\x7b\x7d^$#&-~".toList.contains c

/-- Whether a character behind a backslash stands for itself. -/
def isPlainEscape (c : Char) : Bool :=
  isMeta c || (c.toNat < 128 && !c.isAlphanum && c ≠ '<' && c ≠ '>')

def controlEscape? : Char → Option Char
  | 'a' => some '\x07'
  | 'f' => some '\x0c'
  | 't' => some '\t'
  | 'n' => some '\n'
  | 'r' => some '\r'
  | 'v' => some '\x0b'
  | _ => none

def assertionEscape? : Char → Option Assertion
  | 'A' => some .textStart
  | 'z' => some .textEnd
  | 'B' => some .noWordBoundary
  | '<' => some .wordStart
  | '>' => some .wordEnd
  | _ => none

/-- Reads an escape; the scan stands at the backslash. -/
def readEscape (scan : Scan) : Except Fault (Primitive × Scan) := do
  let start := scan.offset
  let scan := scan.advance 1
  match scan.char? with
  | none => .error .unfinishedEscape
  | some c =>
    if c.isDigit then .error .backreference
    else if c = 'x' ∨ c = 'u' ∨ c = 'U' then
      let (char, scan) ← readHex start c scan
      pure (.literal char, scan)
    else if c = 'p' ∨ c = 'P' then
      let (cls, scan) ← readProperty start (c = 'P') scan
      pure (.property cls, scan)
    else
      let scan := scan.advance 1
      match perlClass? c with
      | some (kind, negated) => pure (.perl ⟨scan.since start, kind, negated⟩, scan)
      | none =>
        if isPlainEscape c then pure (.literal ⟨scan.since start, c, false⟩, scan)
        else
          match controlEscape? c with
          | some control => pure (.literal ⟨scan.since start, control, false⟩, scan)
          | none =>
            if c = 'b' then
              let (kind, scan) ← readBoundaryName scan
              pure (.assertion kind, scan)
            else
              match assertionEscape? c with
              | some kind => pure (.assertion kind, scan)
              | none => .error .unknownEscape

/-- Reads a part without parts outside brackets; the scan is not at its end. -/
def readPrimitive (scan : Scan) : Except Fault (Primitive × Scan) :=
  let after := scan.advance 1
  match scan.char? with
  | some '\\' => readEscape scan
  | some '.' => .ok (.dot (after.since scan.offset), after)
  | some '^' => .ok (.assertion .lineStart, after)
  | some '$' => .ok (.assertion .lineEnd, after)
  | some c => .ok (.literal ⟨after.since scan.offset, c, false⟩, after)
  | none => .error .unfinishedEscape

end Schemata.Pattern
