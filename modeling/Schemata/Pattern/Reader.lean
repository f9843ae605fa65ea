import Schemata.Pattern.Brackets

/-!
# Reading patterns

`Pattern.read` reads a text as a pattern or says why it is none. Open groups are kept on a stack;
the branches and parts of the innermost group are gathered in a `Level`.
-/

namespace Schemata.Pattern

/-! ## Groups -/

def flagOfLetter? : Char → Option Flag
  | 'i' => some .caseInsensitive
  | 'm' => some .multiLine
  | 's' => some .dotAll
  | 'U' => some .swapGreed
  | 'u' => some .unicode
  | 'R' => some .crlf
  | 'x' => some .extended
  | _ => none

/-- Reads flags up to a colon or a closing parenthesis. `negated` says whether a hyphen has been
read and `dangling` whether it was the last sign. -/
def readFlagsFrom : Nat → Scan → FlagChange → Bool → Bool → Except Fault (FlagChange × Scan)
  | 0, _, _, _, _ => .error .unfinishedFlags
  | fuel + 1, scan, change, negated, dangling =>
    match scan.char? with
    | none => .error .unfinishedFlags
    | some c =>
      if c = ':' ∨ c = ')' then if dangling then .error .danglingNegation else .ok (change, scan)
      else if c = '-' then
        if negated then .error .repeatedNegation
        else readFlagsFrom fuel (scan.advance 1) change true true
      else
        match flagOfLetter? c with
        | none => .error .unknownFlag
        | some flag =>
          if (change.state? flag).isSome then .error .duplicateFlag
          else
            let change :=
              if negated then { change with off := change.off ++ [flag] }
              else { change with on := change.on ++ [flag] }
            readFlagsFrom fuel (scan.advance 1) change negated false

def readFlags (scan : Scan) : Except Fault (FlagChange × Scan) :=
  readFlagsFrom (scan.rest.length + 1) scan ⟨[], []⟩ false false

def isNameCharacter (first : Bool) (c : Char) : Bool :=
  c = '_' || Unicode.isAlphabetic c ||
    (!first && (c = '.' || c = '[' || c = ']' || Unicode.isNumeric c))

def readGroupName (scan : Scan) : Except Fault (String × Scan) :=
  let name := scan.rest.takeWhile (· ≠ '>')
  let valid := (name.take 1).all (isNameCharacter true) && (name.drop 1).all (isNameCharacter false)
  let behind := scan.advance name.length
  if !valid then .error .nameCharacter
  else if behind.atEnd then .error .unclosedName
  else if name.isEmpty then .error .emptyName
  else .ok (String.ofList name, behind.advance 1)

/-- What an opening parenthesis begins. -/
inductive Opening where
  /-- A change of flags, closed at once. -/
  | flags (change : FlagChange)
  /-- A group, perhaps with a name. -/
  | group (kind : GroupKind) (name : Option String)

def lookAroundWords : List String := ["?=", "?!", "?<=", "?<!"]

/-- Reads what an opening parenthesis begins; the scan stands at the parenthesis. -/
def readOpeningParenthesis (scan : Scan) : Except Fault (Opening × Scan) := do
  let scan := scan.next
  if lookAroundWords.any fun word => (scan.behind? word).isSome then .error .lookAround
  else
    match scan.behind? "?P<" <|> scan.behind? "?<" with
    | some scan =>
      let (name, scan) ← readGroupName scan
      pure (.group .capturing (some name), scan)
    | none =>
      match scan.behind? "?" with
      | none => pure (.group .capturing none, scan)
      | some scan =>
        if scan.atEnd then .error .unclosedGroup
        else
          let (change, scan) ← readFlags scan
          if scan.at? ')' then
            if change.on.isEmpty ∧ change.off.isEmpty then .error .missingOperand
            else pure (.flags change, scan.advance 1)
          else pure (.group (.flagged change) none, scan.advance 1)

/-! ## Repetitions -/

/-- Takes off the part that a repetition applies to. -/
def takeOperand : List Pattern → Except Fault (Pattern × List Pattern)
  | [] => .error .missingOperand
  | .empty :: _ => .error .missingOperand
  | .flags _ :: _ => .error .missingOperand
  | part :: parts => .ok (part, parts)

/-- The scan behind a question mark, if there is one. -/
def behindLazy (scan : Scan) : Scan := if scan.at? '?' then scan.advance 1 else scan

def countLimit : Nat := Nat.pow 2 32 - 1

def readCount (scan : Scan) : Except Fault Nat × Scan :=
  let blanks := (scan.rest.takeWhile Unicode.isWhiteSpace).length
  let (digits, scan) := (scan.advance blanks).takeSpaced Char.isDigit
  let (_, scan) := scan.takeSpaced Unicode.isWhiteSpace
  let value := digits.foldl (fun n c => n * 10 + (c.toNat - 48)) 0
  if digits.isEmpty then (.error .emptyCount, scan)
  else if countLimit < value then (.error .countTooLarge, scan)
  else (.ok value, scan)

/-- Reads counts in braces; the scan stands at the opening brace. -/
def readCounts (scan : Scan) : Except Fault (RepetitionKind × Scan) := do
  let scan := scan.next
  if scan.atEnd then .error .unclosedCount
  else
    let (least, scan) := readCount scan
    if scan.atEnd then .error .unclosedCount
    else
      let (kind, scan) ←
        if scan.at? ',' then
          let scan := scan.next
          if scan.atEnd then .error .unclosedCount
          else if scan.at? '}' then do
            let least ← least
            pure (RepetitionKind.atLeast least, scan)
          else do
            let least ← least
            let (most, scan) := readCount scan
            let most ← most
            pure (RepetitionKind.bounded least most, scan)
        else do
          let count ← least
          pure (RepetitionKind.exactly count, scan)
      if ¬ scan.at? '}' then .error .unclosedCount
      else
        let scan := behindLazy scan.next
        match kind with
        | .bounded least most =>
          if most < least then .error .invertedCount else pure (kind, scan)
        | _ => pure (kind, scan)

def signRepetition? : Char → Option RepetitionKind
  | '?' => some .zeroOrOne
  | '*' => some .zeroOrMore
  | '+' => some .oneOrMore
  | _ => none

/-! ## Patterns -/

/-- The branches of a group that are complete and the parts of the one that is being read, both
last first. -/
structure Level where
  /-- The complete branches. -/
  branches : List Pattern
  /-- The parts of the current branch. -/
  parts : List Pattern

namespace Level

/-- Nothing read yet. -/
def start : Level := ⟨[], []⟩

def push (level : Level) (part : Pattern) : Level := { level with parts := part :: level.parts }

def branch (level : Level) : Level := ⟨ofParts level.parts.reverse :: level.branches, []⟩

def close (level : Level) : Pattern :=
  match level.branches with
  | [] => ofParts level.parts.reverse
  | _ => .alternation level.branch.branches.reverse

end Level

/-- A group that waits for its closing parenthesis. -/
structure OpenGroup where
  /-- What was read around it. -/
  outer : Level
  /-- What it does. -/
  kind : GroupKind
  /-- Whether blanks were skipped around it. -/
  extended : Bool

/-- Reads a pattern from a scan on. Every round takes a character, so that the length of the text is
fuel enough. -/
def readFrom : Nat → Scan → List OpenGroup → List String → Level → Except Fault Pattern
  | 0, _, _, _, _ => .error .unclosedGroup
  | fuel + 1, scan, groups, names, level =>
    let scan := scan.skipBlanks
    match scan.char? with
    | none => if groups.isEmpty then .ok level.close else .error .unclosedGroup
    | some '(' =>
      match readOpeningParenthesis scan with
      | .error fault => .error fault
      | .ok (.flags change, scan) =>
        let scan := { scan with extended := (change.state? .extended).getD scan.extended }
        readFrom fuel scan groups names (level.push (.flags change))
      | .ok (.group kind name, after) =>
        if name.any names.contains then .error .duplicateName
        else
          let extended :=
            match kind with
            | .flagged change => (change.state? .extended).getD scan.extended
            | .capturing => scan.extended
          readFrom fuel { after with extended } (⟨level, kind, scan.extended⟩ :: groups)
            (name.toList ++ names) Level.start
    | some ')' =>
      match groups with
      | [] => .error .unopenedGroup
      | opened :: groups =>
        let after := { scan.advance 1 with extended := opened.extended }
        readFrom fuel after groups names (opened.outer.push (.group opened.kind level.close))
    | some '|' => readFrom fuel (scan.advance 1) groups names level.branch
    | some '[' =>
      match readClass scan with
      | .error fault => .error fault
      | .ok (cls, scan) => readFrom fuel scan groups names (level.push cls)
    | some '{' =>
      match takeOperand level.parts with
      | .error fault => .error fault
      | .ok (operand, parts) =>
        match readCounts scan with
        | .error fault => .error fault
        | .ok (kind, scan) =>
          readFrom fuel scan groups names { level with parts := .repetition kind operand :: parts }
    | some c =>
      match signRepetition? c with
      | some kind =>
        match takeOperand level.parts with
        | .error fault => .error fault
        | .ok (operand, parts) =>
          readFrom fuel (behindLazy (scan.advance 1)) groups names
            { level with parts := .repetition kind operand :: parts }
      | none =>
        match readPrimitive scan with
        | .error fault => .error fault
        | .ok (primitive, scan) => readFrom fuel scan groups names (level.push primitive.toPattern)

def read (text : String) : Except Fault Pattern :=
  match readFrom (text.length + 1) (Scan.ofString text) [] [] Level.start with
  | .error fault => .error fault
  | .ok pattern => if Fault.depthLimit < pattern.depth then .error .tooDeep else .ok pattern

end Schemata.Pattern
