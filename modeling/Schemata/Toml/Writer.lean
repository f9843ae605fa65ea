/-!
# Writing TOML

Texts, keys and lists as they are written. Of the four kinds of strings the first that can hold a text
is taken: a basic string without escapes, a literal one, a long basic one without escapes, a long
literal one, and at last a basic string with escapes.
-/

namespace Schemata.Toml

/-! ## What a text holds -/

/-- Whether a character can only be written as an escape: a control other than a tab or a line feed. -/
def needsEscape (c : Char) : Bool := (c.toNat < 0x20 && c ≠ '\t' && c ≠ '\n') || c.toNat = 0x7F

/-- The length of the longest run of a character, behind a run of the given length. -/
def longestRun (wanted : Char) (run : Nat) : List Char → Nat
  | [] => run
  | c :: rest => if c = wanted then longestRun wanted (run + 1) rest else max run (longestRun wanted 0 rest)

/-! ## Escapes -/

/-- A digit to base sixteen, in upper case. -/
def hexDigit (n : Nat) : Char := if n < 10 then Char.ofNat (48 + n) else Char.ofNat (55 + n)

def escapeControl (c : Char) : List Char :=
  if c = '\x08' then ['\\', 'b']
  else if c = '\t' then ['\\', 't']
  else if c = '\n' then ['\\', 'n']
  else if c = '\x0c' then ['\\', 'f']
  else if c = '\x0d' then ['\\', 'r']
  else ['\\', 'u', '0', '0', hexDigit (c.toNat / 16), hexDigit (c.toNat % 16)]

/-- The characters of a basic string behind a run of quotes. In a long string line feeds stay, and so
do two quotes of every three. -/
def escapeBasic (long : Bool) (quotes : Nat) : List Char → List Char
  | [] => []
  | c :: rest =>
    if c = '"' then
      if long && quotes < 2 then '"' :: escapeBasic long (quotes + 1) rest
      else '\\' :: '"' :: escapeBasic long 0 rest
    else if c = '\\' then '\\' :: '\\' :: escapeBasic long 0 rest
    else if c = '\n' ∧ long then '\n' :: escapeBasic long 0 rest
    else if c = '\t' ∨ c = '\n' ∨ needsEscape c then escapeControl c ++ escapeBasic long 0 rest
    else c :: escapeBasic long 0 rest

/-! ## Strings -/

/-- The kinds of strings. -/
inductive Style where
  | basic
  | literal
  | longBasic
  | longLiteral
  deriving DecidableEq, Repr

/-- The kind of string for a text. -/
def styleOf (text : List Char) : Style :=
  let controls := text.any needsEscape
  let breaks := text.contains '\n'
  let escapes := text.contains '\\'
  let doubles := longestRun '"' 0 text
  let singles := longestRun '\'' 0 text
  if !controls && !breaks && !escapes && doubles = 0 then .basic
  else if !controls && !breaks && singles = 0 then .literal
  else if !controls && !escapes && doubles ≤ 2 then .longBasic
  else if !controls && singles ≤ 2 then .longLiteral
  else if breaks then .longBasic
  else .basic

/-- A text as a string. A long string that breaks lines starts on a line of its own. -/
def quote (text : List Char) : List Char :=
  let opening (quotes : List Char) : List Char := if text.contains '\n' then quotes ++ ['\n'] else quotes
  match styleOf text with
  | .basic => '"' :: escapeBasic false 0 text ++ ['"']
  | .literal => '\'' :: text ++ ['\'']
  | .longBasic => opening ['"', '"', '"'] ++ escapeBasic true 0 text ++ ['"', '"', '"']
  | .longLiteral => opening ['\'', '\'', '\''] ++ text ++ ['\'', '\'', '\'']

def writeText (text : String) : String := String.ofList (quote text.toList)

def writeKey (key : String) : String :=
  let cs := key.toList
  let bare (c : Char) : Bool := c.isAlphanum || c = '_' || c = '-'
  if !cs.isEmpty && cs.all bare then key
  else
    let hard := cs.any needsEscape || cs.contains '\n'
    if !hard && !cs.contains '"' && !cs.contains '\\' then
      String.ofList ('"' :: escapeBasic false 0 cs ++ ['"'])
    else if !hard && !cs.contains '\'' then String.ofList ('\'' :: cs ++ ['\''])
    else String.ofList ('"' :: escapeBasic false 0 cs ++ ['"'])

/-- A list of texts: on one line up to one text, else a line for each. -/
def writeTexts (texts : List String) : String :=
  match texts with
  | [] => "[]"
  | [text] => "[" ++ writeText text ++ "]"
  | _ => "[\n" ++ String.join (texts.map fun text => "    " ++ writeText text ++ ",\n") ++ "]"

def writeBool (b : Bool) : String := if b then "true" else "false"

/-- A key and what it is set to, as a line. -/
def writeEntry (key value : String) : String := writeKey key ++ " = " ++ value ++ "\n"

end Schemata.Toml
