/-!
# Patterns

The parsed form of a text pattern. Parts that a later stage may have to point at carry the stretch
of the pattern text that they were read from.

A character class in brackets is one `ClassSet`; a pattern is one `Pattern`. Groups keep their
flags, because flags hold from where they stand to the end of the enclosing group.
-/

namespace Schemata

namespace Pattern

/-- A stretch of the pattern text: from the character at `start` up to the one before `stop`. -/
structure Span where
  /-- The first character. -/
  start : Nat
  /-- One past the last character. -/
  stop : Nat
  deriving DecidableEq, Repr, Inhabited

/-- A character that stands for itself, however it is spelled. -/
structure Literal where
  /-- Where it is spelled. -/
  span : Span
  /-- The character. -/
  char : Char
  /-- Whether it is spelled as a byte, with two hexadecimal digits. -/
  isByte : Bool
  deriving DecidableEq, Repr

/-- The classes with one-letter escapes. -/
inductive PerlKind where
  /-- Decimal digits. -/
  | digit
  /-- White space. -/
  | space
  /-- Letters, marks, digits and joining punctuation. -/
  | word
  deriving DecidableEq, Repr

/-- A class written as a one-letter escape. -/
structure PerlClass where
  /-- Where it is written. -/
  span : Span
  /-- Which class. -/
  kind : PerlKind
  /-- Whether the complement is meant. -/
  negated : Bool
  deriving DecidableEq, Repr

/-- How a class of a Unicode property is named. -/
inductive PropertyQuery where
  /-- A name alone. -/
  | named (name : String)
  /-- A name and a value. -/
  | valued (name value : String)
  deriving DecidableEq, Repr

/-- A class of a Unicode property. -/
structure PropertyClass where
  /-- Where it is written. -/
  span : Span
  /-- The property. -/
  query : PropertyQuery
  /-- Whether the complement is meant. -/
  negated : Bool
  deriving DecidableEq, Repr

/-- The bracketed class names over the first 128 characters. -/
inductive AsciiKind where
  | alnum | alpha | ascii | blank | cntrl | digit | graph | lower | print | punct | space | upper
  | word | xdigit
  deriving DecidableEq, Repr

/-- The class of a bracketed name. -/
def AsciiKind.ofName? : String → Option AsciiKind
  | "alnum" => some .alnum
  | "alpha" => some .alpha
  | "ascii" => some .ascii
  | "blank" => some .blank
  | "cntrl" => some .cntrl
  | "digit" => some .digit
  | "graph" => some .graph
  | "lower" => some .lower
  | "print" => some .print
  | "punct" => some .punct
  | "space" => some .space
  | "upper" => some .upper
  | "word" => some .word
  | "xdigit" => some .xdigit
  | _ => none

/-- The operators between classes in brackets. -/
inductive ClassOperator where
  /-- Characters in both sides. -/
  | intersection
  /-- Characters in the left side only. -/
  | difference
  /-- Characters in exactly one side. -/
  | symmetricDifference
  deriving DecidableEq, Repr

/-- What may stand between the brackets of a class. -/
inductive ClassSet where
  /-- Nothing. -/
  | empty
  /-- One character. -/
  | literal (literal : Literal)
  /-- All characters from the first to the last. -/
  | range (first last : Literal)
  /-- A bracketed class name. -/
  | ascii (span : Span) (kind : AsciiKind) (negated : Bool)
  /-- A class of a Unicode property. -/
  | property (cls : PropertyClass)
  /-- A one-letter class. -/
  | perl (cls : PerlClass)
  /-- A class in brackets of its own. -/
  | bracketed (span : Span) (negated : Bool) (body : ClassSet)
  /-- Several items, two at least. -/
  | union (items : List ClassSet)
  /-- An operator between two classes. -/
  | operation (operator : ClassOperator) (left right : ClassSet)
  deriving Repr, Inhabited

/-- Conditions on a position between characters. -/
inductive Assertion where
  /-- The caret: start of the text, or of a line. -/
  | lineStart
  /-- The dollar sign: end of the text, or of a line. -/
  | lineEnd
  /-- Start of the text. -/
  | textStart
  /-- End of the text. -/
  | textEnd
  /-- A word character on exactly one side. -/
  | wordBoundary
  /-- A word character on both sides or on none. -/
  | noWordBoundary
  /-- A word character on the right side only. -/
  | wordStart
  /-- A word character on the left side only. -/
  | wordEnd
  /-- No word character on the left side. -/
  | wordStartHalf
  /-- No word character on the right side. -/
  | wordEndHalf
  deriving DecidableEq, Repr

/-- The flags that change the meaning of what follows. -/
inductive Flag where
  /-- Letter case does not count. -/
  | caseInsensitive
  /-- Caret and dollar sign match at line ends too. -/
  | multiLine
  /-- The dot matches a line feed too. -/
  | dotAll
  /-- Greedy and lazy repetition swap. -/
  | swapGreed
  /-- Classes and the dot range over all characters and not only over ASCII. -/
  | unicode
  /-- A line may end with carriage return and line feed. -/
  | crlf
  /-- Blanks and comments in the pattern are skipped. -/
  | extended
  deriving DecidableEq, Repr

/-- Flags as they are written: switched on before the hyphen and off behind it. -/
structure FlagChange where
  /-- The flags before the hyphen. -/
  on : List Flag
  /-- The flags behind the hyphen. -/
  off : List Flag
  deriving DecidableEq, Repr

def FlagChange.state? (change : FlagChange) (flag : Flag) : Option Bool :=
  if flag ∈ change.on then some true else if flag ∈ change.off then some false else none

/-- How often a repetition may go round. -/
inductive RepetitionKind where
  /-- The question mark. -/
  | zeroOrOne
  /-- The star. -/
  | zeroOrMore
  /-- The plus sign. -/
  | oneOrMore
  /-- Exactly so often. -/
  | exactly (count : Nat)
  /-- At least so often. -/
  | atLeast (least : Nat)
  /-- Between two counts. -/
  | bounded (least most : Nat)
  deriving DecidableEq, Repr

namespace RepetitionKind

def least : RepetitionKind → Nat
  | zeroOrOne => 0
  | zeroOrMore => 0
  | oneOrMore => 1
  | exactly count => count
  | atLeast least => least
  | bounded least _ => least

/-- The greatest count, if there is one. -/
def most? : RepetitionKind → Option Nat
  | zeroOrOne => some 1
  | zeroOrMore => none
  | oneOrMore => none
  | exactly count => some count
  | atLeast _ => none
  | bounded _ most => some most

end RepetitionKind

/-- What the parentheses of a group do beside grouping. -/
inductive GroupKind where
  /-- They capture under a number or a name. -/
  | capturing
  /-- They change flags inside. -/
  | flagged (change : FlagChange)
  deriving DecidableEq, Repr

end Pattern

/-- A pattern. -/
inductive Pattern where
  /-- Nothing. -/
  | empty
  /-- A change of flags from here to the end of the enclosing group. -/
  | flags (change : Pattern.FlagChange)
  /-- One character. -/
  | literal (literal : Pattern.Literal)
  /-- Any character, line ends perhaps excepted. -/
  | dot (span : Pattern.Span)
  /-- A condition on the position. -/
  | assertion (kind : Pattern.Assertion)
  /-- A class of a Unicode property. -/
  | property (cls : Pattern.PropertyClass)
  /-- A one-letter class. -/
  | perl (cls : Pattern.PerlClass)
  /-- A class in brackets. -/
  | bracketed (span : Pattern.Span) (negated : Bool) (body : Pattern.ClassSet)
  /-- A repeated part. -/
  | repetition (kind : Pattern.RepetitionKind) (body : Pattern)
  /-- A part in parentheses. -/
  | group (kind : Pattern.GroupKind) (body : Pattern)
  /-- A choice of two parts or more. -/
  | alternation (branches : List Pattern)
  /-- Two parts or more in a row. -/
  | concat (parts : List Pattern)
  deriving Repr, Inhabited

namespace Pattern

/-- Parts in a row; a single part stands for itself. -/
def ofParts : List Pattern → Pattern
  | [] => .empty
  | [part] => part
  | parts => .concat parts

/-- Items side by side in a class; a single item stands for itself. -/
def ClassSet.ofItems : List ClassSet → ClassSet
  | [] => .empty
  | [item] => item
  | items => .union items

/-! ## Nesting -/

/-- How many brackets, unions and operators of a class are open at once at most. -/
def ClassSet.depth : ClassSet → Nat
  | .bracketed _ _ body => body.depth + 1
  | .union items => depthOfAll items + 1
  | .operation _ left right => max left.depth right.depth + 1
  | _ => 0
where
  /-- The greatest depth of a list of items. -/
  depthOfAll : List ClassSet → Nat
    | [] => 0
    | item :: items => max item.depth (depthOfAll items)

/-- How many groups, repetitions, choices, rows and brackets are open at once at most. -/
def depth : Pattern → Nat
  | .bracketed _ _ body => body.depth + 1
  | .repetition _ body => body.depth + 1
  | .group _ body => body.depth + 1
  | .alternation branches => depthOfAll branches + 1
  | .concat parts => depthOfAll parts + 1
  | _ => 0
where
  /-- The greatest depth of a list of parts. -/
  depthOfAll : List Pattern → Nat
    | [] => 0
    | part :: parts => max part.depth (depthOfAll parts)

end Pattern

end Schemata
