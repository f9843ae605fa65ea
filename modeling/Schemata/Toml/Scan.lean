import Schemata.Json.Reader

/-!
# Words of TOML

Blanks, comments, strings and keys. Every reader takes the characters that are left and gives what it
read and what is left then, or none if the text is not well formed.
-/

namespace Schemata.Toml

/-! ## Blanks and comments -/

def isBlankChar (c : Char) : Bool := c = ' ' || c = '\t'

/-- Whether a character may not stand in a text: a control character other than a tab. -/
def isForbidden (c : Char) : Bool := (c.toNat < 0x20 && c ≠ '\t') || c.toNat = 0x7F

def skipBlanks (cs : List Char) : List Char := cs.dropWhile isBlankChar

def lineBreak? : List Char → Option (List Char)
  | '\n' :: rest => some rest
  | '\x0d' :: '\n' :: rest => some rest
  | _ => none

def skipComment (cs : List Char) : Option (List Char) :=
  match cs with
  | '#' :: rest =>
    let behind := rest.dropWhile fun c => !isForbidden c
    if behind.isEmpty || (lineBreak? behind).isSome then some behind else none
  | _ => some cs

/-- Drops blanks, a comment and the end of the line; nothing else may be left on the line. -/
def finishLine (cs : List Char) : Option (List Char) :=
  (skipComment (skipBlanks cs)).bind fun rest => if rest.isEmpty then some [] else lineBreak? rest

def skipLines : Nat → List Char → Option (List Char)
  | 0, _ => none
  | fuel + 1, cs =>
    (skipComment (skipBlanks cs)).bind fun rest =>
      match lineBreak? rest with
      | some rest => skipLines fuel rest
      | none => some rest

/-! ## Strings -/

/-- The character of a code in digits to base sixteen. -/
def charOfHex? (digits : List Char) : Option Char :=
  (Json.hexNumber? digits).bind fun n => if h : n.isValidChar then some (Char.ofNatAux n h) else none

/-- The character that an escape behind a backslash stands for. -/
def readEscape : List Char → Option (Char × List Char)
  | 'b' :: rest => some ('\x08', rest)
  | 't' :: rest => some ('\t', rest)
  | 'n' :: rest => some ('\n', rest)
  | 'f' :: rest => some ('\x0c', rest)
  | 'r' :: rest => some ('\x0d', rest)
  | '"' :: rest => some ('"', rest)
  | '\\' :: rest => some ('\\', rest)
  | 'u' :: rest => if rest.length < 4 then none else (charOfHex? (rest.take 4)).map (·, rest.drop 4)
  | 'U' :: rest => if rest.length < 8 then none else (charOfHex? (rest.take 8)).map (·, rest.drop 8)
  | _ => none

/-- The characters of a basic string behind its opening quote. -/
def readBasic : Nat → List Char → Option (List Char × List Char)
  | 0, _ => none
  | _ + 1, [] => none
  | fuel + 1, c :: rest =>
    if c = '"' then some ([], rest)
    else if c = '\\' then do
      let (escaped, rest) ← readEscape rest
      let (text, rest) ← readBasic fuel rest
      pure (escaped :: text, rest)
    else if isForbidden c then none
    else do
      let (text, rest) ← readBasic fuel rest
      pure (c :: text, rest)

/-- The characters of a literal string behind its opening quote. -/
def readLiteral (cs : List Char) : Option (List Char × List Char) :=
  let text := cs.takeWhile fun c => c ≠ '\'' && !isForbidden c
  match cs.drop text.length with
  | '\'' :: rest => some (text, rest)
  | _ => none

/-- The end of a long string, at quotes: three of them close it, and up to two before those belong to
the text. -/
def closeLong? (quote : Char) (cs : List Char) : Option (List Char × List Char) :=
  let quotes := (cs.takeWhile (· = quote)).length
  if quotes < 3 then none
  else
    let kept := min (quotes - 3) 2
    some (List.replicate kept quote, cs.drop (kept + 3))

/-- A character of a long string, where a line break is one character. -/
def readLongChar : List Char → Option (Char × List Char)
  | '\x0d' :: '\n' :: rest => some ('\n', rest)
  | '\n' :: rest => some ('\n', rest)
  | c :: rest => if isForbidden c then none else some (c, rest)
  | [] => none

/-- Drops blanks and line breaks behind a backslash at the end of a line. -/
def skipContinuation? (cs : List Char) : Option (List Char) :=
  (lineBreak? (skipBlanks cs)).map fun rest =>
    let behind := rest.dropWhile fun c => isBlankChar c || c = '\n' || c = '\x0d'
    behind

/-- The characters of a long basic string behind its opening quotes. -/
def readLongBasic : Nat → List Char → Option (List Char × List Char)
  | 0, _ => none
  | fuel + 1, cs =>
    match closeLong? '"' cs with
    | some closed => some closed
    | none =>
      match cs with
      | '\\' :: rest =>
        match skipContinuation? rest with
        | some rest => readLongBasic fuel rest
        | none => do
          let (escaped, rest) ← readEscape rest
          let (text, rest) ← readLongBasic fuel rest
          pure (escaped :: text, rest)
      | cs => do
        let (c, rest) ← readLongChar cs
        let (text, rest) ← readLongBasic fuel rest
        pure (c :: text, rest)

/-- The characters of a long literal string behind its opening quotes. -/
def readLongLiteral : Nat → List Char → Option (List Char × List Char)
  | 0, _ => none
  | fuel + 1, cs =>
    match closeLong? '\'' cs with
    | some closed => some closed
    | none => do
      let (c, rest) ← readLongChar cs
      let (text, rest) ← readLongLiteral fuel rest
      pure (c :: text, rest)

/-- A string of any of the four kinds. A line break right behind long opening quotes does not count. -/
def readString (cs : List Char) : Option (List Char × List Char) :=
  let behindBreak (rest : List Char) : List Char := (lineBreak? rest).getD rest
  match cs with
  | '"' :: '"' :: '"' :: rest => readLongBasic (cs.length + 1) (behindBreak rest)
  | '\'' :: '\'' :: '\'' :: rest => readLongLiteral (cs.length + 1) (behindBreak rest)
  | '"' :: rest => readBasic (cs.length + 1) rest
  | '\'' :: rest => readLiteral rest
  | _ => none

/-! ## Keys -/

def isBareKeyChar (c : Char) : Bool := c.isAlphanum || c = '_' || c = '-'

def readSimpleKey (cs : List Char) : Option (String × List Char) :=
  match cs with
  | '"' :: rest => (readBasic (cs.length + 1) rest).map fun (key, rest) => (String.ofList key, rest)
  | '\'' :: rest => (readLiteral rest).map fun (key, rest) => (String.ofList key, rest)
  | _ =>
    let key := cs.takeWhile isBareKeyChar
    if key.isEmpty then none else some (String.ofList key, cs.drop key.length)

/-- A key with dots, as its parts. Blanks around dots do not count. -/
def readKey : Nat → List Char → Option (List String × List Char)
  | 0, _ => none
  | fuel + 1, cs => do
    let (part, rest) ← readSimpleKey cs
    match skipBlanks rest with
    | '.' :: rest => do
      let (parts, rest) ← readKey fuel (skipBlanks rest)
      pure (part :: parts, rest)
    | rest => pure ([part], rest)

end Schemata.Toml
