import Schemata.Pattern.Node
import Schemata.Unicode.TextClasses

/-!
# Matching

Decides whether a node matches somewhere in a text. A set of positions is a number whose bit `i`
stands for the position behind `i` characters. A node takes the positions where a match may start to
those where it may end, so that no position is tried twice and no choice is taken back.

A repetition goes round once more than the text is long at most: among so many rounds one consumes
nothing, and repeating or leaving out that one changes nothing.
-/

namespace Schemata.Pattern

open Unicode (CodeRanges)

/-- A set of positions in a text. -/
abbrev Positions := Nat

namespace Positions

/-- The positions of a list of answers, the first of them for position 0. -/
def ofList : List Bool → Positions
  | [] => 0
  | answer :: answers => (if answer then 1 else 0) + 2 * ofList answers

/-- All positions of a text of the given length. -/
def all (length : Nat) : Positions := Nat.pow 2 (length + 1) - 1

end Positions

/-! ## Conditions -/

/-- Whether a character that may be missing belongs to a word. -/
def isWord (unicode : Bool) : Option Char → Bool
  | none => false
  | some c =>
    if unicode then Unicode.isWordCharacter c else Unicode.asciiWordCharacters.contains c.toNat

/-- Whether a condition holds between two characters; a missing one is the end of the text. -/
def Look.holds (look : Look) (before after : Option Char) : Bool :=
  match look with
  | textStart => before.isNone
  | textEnd => after.isNone
  | lineStart => before.isNone || before = some '\n'
  | lineEnd => after.isNone || after = some '\n'
  | crlfLineStart =>
    before.isNone || before = some '\n' || (before = some '\r' && after ≠ some '\n')
  | crlfLineEnd => after.isNone || after = some '\r' || (after = some '\n' && before ≠ some '\r')
  | wordBoundary u => isWord u before != isWord u after
  | noWordBoundary u => isWord u before == isWord u after
  | wordStart u => !isWord u before && isWord u after
  | wordEnd u => isWord u before && !isWord u after
  | wordStartHalf u => !isWord u before
  | wordEndHalf u => !isWord u after

/-- Whether a condition holds at each position, from the one behind `before` on. -/
def Look.along (look : Look) (before : Option Char) : List Char → List Bool
  | [] => [look.holds before none]
  | c :: rest => look.holds before (some c) :: look.along (some c) rest

/-! ## Nodes on a text -/

/-- A node whose leaves say at which positions of one text they apply. -/
inductive Placed where
  /-- The empty text. -/
  | empty
  /-- One character, at these positions. -/
  | one (places : Positions)
  /-- A condition that holds at these positions. -/
  | look (places : Positions)
  /-- The body again and again. -/
  | repetition (least : Nat) (most : Option Nat) (body : Placed)
  /-- One of the branches. -/
  | alternation (branches : List Placed)
  /-- All parts in a row. -/
  | concat (parts : List Placed)

/-- A node with its leaves tried at every position of a text. -/
def Node.place (text : List Char) : Node → Placed
  | .empty => .empty
  | .one set => .one (Positions.ofList (text.map fun c => CodeRanges.contains set c.toNat))
  | .look kind => .look (Positions.ofList (kind.along none text))
  | .repetition least most body => .repetition least most (body.place text)
  | .capture body => body.place text
  | .alternation branches => .alternation (placeAll text branches)
  | .concat parts => .concat (placeAll text parts)
where
  /-- A list of nodes with their leaves tried. -/
  placeAll (text : List Char) : List Node → List Placed
    | [] => []
    | node :: nodes => node.place text :: placeAll text nodes

/-- The positions after a number of rounds, stopped early when a round changes nothing. -/
def rounds (step : Positions → Positions) : Nat → Positions → Positions
  | 0, positions => positions
  | n + 1, positions =>
    let after := step positions
    if after = positions then positions else rounds step n after

/-- The positions where a match can end that starts at one of the given positions. `bound` is one
more than the length of the text. -/
def Placed.advance (bound : Nat) : Placed → Positions → Positions
  | .empty, positions => positions
  | .one places, positions => (positions &&& places) <<< 1
  | .look places, positions => positions &&& places
  | .repetition least most body, positions =>
    let forced := rounds (body.advance bound) (min least bound) positions
    let optional := match most with
      | some most => min (most - least) bound
      | none => bound
    rounds (fun reached => reached ||| body.advance bound reached) optional forced
  | .alternation branches, positions => advanceAny bound branches positions
  | .concat parts, positions => advanceAll bound parts positions
where
  /-- The ends of the branches together. -/
  advanceAny (bound : Nat) : List Placed → Positions → Positions
    | [], _ => 0
    | branch :: branches, positions =>
      branch.advance bound positions ||| advanceAny bound branches positions
  /-- The ends of the parts one after the other. -/
  advanceAll (bound : Nat) : List Placed → Positions → Positions
    | [], positions => positions
    | part :: parts, positions => advanceAll bound parts (part.advance bound positions)

def Node.matchesIn (node : Node) (text : String) : Bool :=
  let chars := text.toList
  (node.place chars).advance (chars.length + 1) (Positions.all chars.length) ≠ 0

end Schemata.Pattern
