import Schemata.Unicode.Runs

/-!
# Nodes

What a pattern means once its flags are applied: sets of characters, conditions on positions,
repetition, choice and sequence. Nothing in a node depends on where it stands.
-/

namespace Schemata.Pattern

open Unicode (CodeRanges)

/-- Conditions on a position. The conditions on words look at the words of all scripts, or at those
of ASCII only. -/
inductive Look where
  /-- Start of the text. -/
  | textStart
  /-- End of the text. -/
  | textEnd
  /-- Start of the text, or behind a line feed. -/
  | lineStart
  /-- End of the text, or before a line feed. -/
  | lineEnd
  /-- Start of a line that may end with carriage return and line feed. -/
  | crlfLineStart
  /-- End of a line that may end with carriage return and line feed. -/
  | crlfLineEnd
  /-- A word character on exactly one side. -/
  | wordBoundary (unicode : Bool)
  /-- A word character on both sides or on none. -/
  | noWordBoundary (unicode : Bool)
  /-- A word character on the right side only. -/
  | wordStart (unicode : Bool)
  /-- A word character on the left side only. -/
  | wordEnd (unicode : Bool)
  /-- No word character on the left side. -/
  | wordStartHalf (unicode : Bool)
  /-- No word character on the right side. -/
  | wordEndHalf (unicode : Bool)
  deriving DecidableEq, Repr

/-- The meaning of a pattern. -/
inductive Node where
  /-- The empty text. -/
  | empty
  /-- One character of a set. -/
  | one (set : List (Nat × Nat))
  /-- The empty text where a condition holds. -/
  | look (kind : Look)
  /-- The body again and again. -/
  | repetition (least : Nat) (most : Option Nat) (body : Node)
  /-- The body, remembered. -/
  | capture (body : Node)
  /-- One of the branches. -/
  | alternation (branches : List Node)
  /-- All parts in a row. -/
  | concat (parts : List Node)
  deriving Repr, Inhabited

end Schemata.Pattern
