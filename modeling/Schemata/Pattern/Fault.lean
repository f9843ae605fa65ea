/-!
# Faults of pattern syntax

Why a text is no pattern. `Fault.message` words the cause; the position plays no role in it.
-/

namespace Schemata.Pattern

/-- Why a text is no pattern. -/
inductive Fault where
  | unclosedGroup
  | unopenedGroup
  | unclosedClass
  | invertedClassRange
  | classRangeBoundary
  | escapeInClass
  | missingOperand
  | unclosedCount
  | emptyCount
  | countTooLarge
  | invertedCount
  | lookAround
  | backreference
  | unknownEscape
  | unfinishedEscape
  | hexDigit
  | emptyHex
  | hexOutOfRange
  | unknownFlag
  | duplicateFlag
  | danglingNegation
  | repeatedNegation
  | unfinishedFlags
  | unclosedName
  | emptyName
  | nameCharacter
  | duplicateName
  | tooDeep
  | unknownWordBoundary
  | unclosedWordBoundary
  | unfinishedWordBoundary
  | propertyEscape
  deriving DecidableEq, Repr

namespace Fault

def depthLimit : Nat := 250

/-- The wording of a cause. -/
def message : Fault → String
  | unclosedGroup => "unclosed group"
  | unopenedGroup => "unopened group"
  | unclosedClass => "unclosed character class"
  | invertedClassRange => "invalid character class range, the start must be <= the end"
  | classRangeBoundary => "invalid range boundary, must be a literal"
  | escapeInClass => "invalid escape sequence found in character class"
  | missingOperand => "repetition operator missing expression"
  | unclosedCount => "unclosed counted repetition"
  | emptyCount => "repetition quantifier expects a valid decimal"
  | countTooLarge => "decimal literal invalid"
  | invertedCount => "invalid repetition count range, the start must be <= the end"
  | lookAround => "look-around, including look-ahead and look-behind, is not supported"
  | backreference => "backreferences are not supported"
  | unknownEscape => "unrecognized escape sequence"
  | unfinishedEscape => "incomplete escape sequence, reached end of pattern prematurely"
  | hexDigit => "invalid hexadecimal digit"
  | emptyHex => "hexadecimal literal empty"
  | hexOutOfRange => "hexadecimal literal is not a Unicode scalar value"
  | unknownFlag => "unrecognized flag"
  | duplicateFlag => "duplicate flag"
  | danglingNegation => "dangling flag negation operator"
  | repeatedNegation => "flag negation operator repeated"
  | unfinishedFlags => "expected flag but got end of regex"
  | unclosedName => "unclosed capture group name"
  | emptyName => "empty capture group name"
  | nameCharacter => "invalid capture group character"
  | duplicateName => "duplicate capture group name"
  | tooDeep =>
    "exceed the maximum number of nested parentheses/brackets (" ++ toString depthLimit ++ ")"
  | unknownWordBoundary =>
    "unrecognized special word boundary assertion, valid choices are: start, end, start-half or end-half"
  | unclosedWordBoundary =>
    "special word boundary assertion is either unclosed or contains an invalid character"
  | unfinishedWordBoundary =>
    "found either the beginning of a special word boundary or a bounded repetition on a \\b with an opening brace, but no closing brace"
  | propertyEscape => "invalid Unicode character class"

end Fault

end Schemata.Pattern
