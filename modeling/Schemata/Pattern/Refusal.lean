import Schemata.Pattern.Basic

/-!
# Refused patterns

A text can read as a pattern and still have no meaning: it may name a property that does not exist,
or match what is no text. `Refusal.render` shows the pattern with carets under the offending part.
-/

namespace Schemata.Pattern

/-- Why a pattern has no meaning. -/
inductive RefusalCause where
  /-- Something outside ASCII where only ASCII is meant. -/
  | unicodeNotAllowed
  /-- The part would match single bytes of a longer character. -/
  | invalidUtf8
  /-- There is no such property. -/
  | unknownProperty
  /-- The property has no such value. -/
  | unknownPropertyValue
  deriving DecidableEq, Repr

def RefusalCause.message : RefusalCause → String
  | unicodeNotAllowed => "Unicode not allowed here"
  | invalidUtf8 => "pattern can match invalid UTF-8"
  | unknownProperty => "Unicode property not found"
  | unknownPropertyValue => "Unicode property value not found"

/-- A part of a pattern that has no meaning. -/
structure Refusal where
  /-- The part. -/
  span : Span
  /-- Why it has none. -/
  cause : RefusalCause
  deriving DecidableEq, Repr

namespace Refusal

/-- A line and a column, both from one on. -/
structure Position where
  /-- The line. -/
  line : Nat
  /-- The column. -/
  column : Nat

def positionOf : List Char → Nat → Position → Position
  | _, 0, position => position
  | [], _ + 1, position => position
  | c :: rest, offset + 1, position =>
    positionOf rest offset
      (if c = '\n' then ⟨position.line + 1, 1⟩ else ⟨position.line, position.column + 1⟩)

/-- The lines of a text, without their ends; a line end at the end of the text begins no line. -/
def linesOf (text : String) : List String :=
  let lines := (text.splitOn "\n").map fun line =>
    if line.endsWith "\r" then String.ofList line.toList.dropLast else line
  match lines.reverse with
  | "" :: rest => rest.reverse
  | _ => lines

/-- A text of one character repeated. -/
def fill (c : Char) (count : Nat) : String := String.ofList (List.replicate count c)

def padNumber (width n : Nat) : String :=
  let digits := toString n
  fill ' ' (width - digits.length) ++ digits

/-- The pattern with carets under the part and the cause below. Patterns of several lines are shown
with line numbers between rules. -/
def render (text : String) (refusal : Refusal) : String :=
  let start := positionOf text.toList refusal.span.start ⟨1, 1⟩
  let stop := positionOf text.toList refusal.span.stop ⟨1, 1⟩
  let several := text.toList.contains '\n'
  let lines := linesOf text
  let count := lines.length + if text.endsWith "\n" then 1 else 0
  let width := if count ≤ 1 then 0 else (toString count).length
  let margin := if width = 0 then 4 else width + 2
  let carets := fill ' ' (margin + start.column - 1) ++ fill '^' (max 1 (stop.column - start.column))
  let shown := (lines.zipIdx 1).map fun (line, number) =>
    let lead := if width = 0 then fill ' ' 4 else padNumber width number ++ ": "
    let note := if start.line = stop.line ∧ start.line = number then carets ++ "\n" else ""
    lead ++ line ++ "\n" ++ note
  let spread :=
    if several ∧ start.line ≠ stop.line then
      "on line " ++ toString start.line ++ " (column " ++ toString start.column ++ ") through line "
        ++ toString stop.line ++ " (column " ++ toString (stop.column - 1) ++ ")\n"
    else ""
  let rule := if several then fill '~' 79 ++ "\n" else ""
  "regex parse error:\n" ++ rule ++ String.join shown ++ rule ++ spread ++ "error: "
    ++ refusal.cause.message

end Refusal

end Schemata.Pattern
