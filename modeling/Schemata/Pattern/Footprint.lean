import Schemata.Pattern.Node

/-!
# Footprints

How many bytes the automata of a node take: one that reads the bytes of a text forwards, with states
for the captures, and one that reads them backwards. A pattern whose automata grow beyond a limit is
refused, which keeps counted repetitions within bounds. The sizes follow from the shape of the node;
nothing is built, so that a count may be as large as it likes.
-/

namespace Schemata.Pattern

open Unicode (CodeRanges)

def footprintLimit : Nat := 10485760

/-- The bytes of a state. -/
def stateBytes : Nat := 32

/-- The bytes of a transition of a state with several. -/
def transitionBytes : Nat := 8

/-- The bytes of a way out of a branching state. -/
def branchBytes : Nat := 4

/-! ## Simplified nodes -/

/-- The character of a node that matches one character only. -/
def Node.single? : Node → Option Nat
  | .one [(lo, hi)] => if lo = hi then some lo else none
  | _ => none

def Node.set? : Node → Option CodeRanges
  | .one [(lo, hi)] => if lo = hi then none else some [(lo, hi)]
  | .one set => some set
  | _ => none

/-- Whether a node matches nothing but the empty text. -/
def Node.isZeroLength : Node → Bool
  | .empty => true
  | .one _ => false
  | .look _ => true
  | .repetition _ most body => most = some 0 || body.isZeroLength
  | .capture body => body.isZeroLength
  | .alternation branches => allZeroLength branches
  | .concat parts => allZeroLength parts
where
  /-- Whether all nodes match nothing but the empty text. -/
  allZeroLength : List Node → Bool
    | [] => true
    | node :: nodes => node.isZeroLength && allZeroLength nodes

def Node.isNullable : Node → Bool
  | .empty => true
  | .one set => set.isEmpty
  | .look _ => true
  | .repetition least _ body => least = 0 || body.isNullable
  | .capture body => body.isNullable
  | .alternation branches => anyNullable branches
  | .concat parts => allNullable parts
where
  /-- Whether one of the nodes can match the empty text. -/
  anyNullable : List Node → Bool
    | [] => false
    | node :: nodes => node.isNullable || anyNullable nodes
  /-- Whether all nodes can match the empty text. -/
  allNullable : List Node → Bool
    | [] => true
    | node :: nodes => node.isNullable && allNullable nodes

/-- A repetition; one that goes round once or never is none, and going round without consuming
anything is needed once at most. -/
def Node.repeated (least : Nat) (most : Option Nat) (body : Node) : Node :=
  let (least, most) :=
    if body.isZeroLength then (min least 1, some ((most.map (min 1 ·)).getD 1)) else (least, most)
  if least = 0 ∧ most = some 0 then .empty
  else if least = 1 ∧ most = some 1 then body
  else .repetition least most body

/-- Parts in a row without empty parts and without rows inside the row. -/
def Node.row (parts : List Node) : Node :=
  let flat := parts.flatMap fun part =>
    match part with
    | .empty => []
    | .concat inner => inner
    | other => [other]
  match flat with
  | [] => .empty
  | [part] => part
  | parts => .concat parts

/-- A choice without choices inside; a choice of characters is a set. -/
def Node.choice (branches : List Node) : Node :=
  let flat := branches.flatMap fun branch =>
    match branch with
    | .alternation inner => inner
    | other => [other]
  match flat with
  | [branch] => branch
  | branches =>
    match branches.mapM Node.single? with
    | some singles => .one (CodeRanges.ofList (singles.map fun c => (c, c)))
    | none =>
      match branches.mapM Node.set? with
      | some sets => .one (CodeRanges.ofList sets.flatten)
      | none => .alternation branches

def Node.simplified : Node → Node
  | .repetition least most body => Node.repeated least most body.simplified
  | .capture body => .capture body.simplified
  | .alternation branches => Node.choice (simplifiedAll branches)
  | .concat parts => Node.row (simplifiedAll parts)
  | other => other
where
  /-- The simplified forms of a list of nodes. -/
  simplifiedAll : List Node → List Node
    | [] => []
    | node :: nodes => node.simplified :: simplifiedAll nodes

/-! ## Byte sequences -/

/-- A range of bytes, both ends included. -/
abbrev ByteRange := Nat × Nat

/-- The ranges of continuation bytes for the values from `lo` to `hi` of `count` bytes, six bits
each. -/
def continuationRanges : Nat → Nat → Nat → List (List ByteRange)
  | 0, _, _ => [[]]
  | count + 1, lo, hi =>
    splitLead 128 (Nat.pow 64 count) lo hi (continuationRanges count)
where
  /-- Splits a range of values where the leading part changes. `below` cuts the rest. -/
  splitLead (base unit lo hi : Nat) (below : Nat → Nat → List (List ByteRange)) :
      List (List ByteRange) :=
    let first := lo / unit
    let last := hi / unit
    let under (a b : Nat) (tails : List (List ByteRange)) := tails.map ((base + a, base + b) :: ·)
    if first = last then under first first (below (lo % unit) (hi % unit))
    else
      let cutFirst := lo % unit ≠ 0
      let cutLast := hi % unit ≠ unit - 1
      let a := if cutFirst then first + 1 else first
      let b := if cutLast then last - 1 else last
      (if cutFirst then under first first (below (lo % unit) (unit - 1)) else []) ++
        (if a ≤ b then under a b (below 0 (unit - 1)) else []) ++
        (if cutLast then under last last (below 0 (hi % unit)) else [])

/-- The blocks of code points with encodings of one length: first, last, value of the lead byte for
zero, continuation bytes. Surrogates have no encoding. -/
def encodingBlocks : List (Nat × Nat × Nat × Nat) :=
  [(0, 0x7F, 0, 0), (0x80, 0x7FF, 0xC0, 1), (0x800, 0xD7FF, 0xE0, 2), (0xE000, 0xFFFF, 0xE0, 2),
    (0x10000, 0x10FFFF, 0xF0, 3)]

def byteSequences (set : CodeRanges) : List (List ByteRange) :=
  set.flatMap fun (lo, hi) =>
    encodingBlocks.flatMap fun (first, last, base, count) =>
      let lo := max lo first
      let hi := min hi last
      if lo ≤ hi then
        continuationRanges.splitLead base (Nat.pow 64 count) lo hi (continuationRanges count)
      else []

/-- Groups sequences with the same first range that stand side by side. -/
def groupHeads : List (List ByteRange) → List (ByteRange × List (List ByteRange))
  | [] => []
  | [] :: rest => groupHeads rest
  | (head :: tail) :: rest =>
    match groupHeads rest with
    | (head', tails) :: groups =>
      if head = head' then (head, tail :: tails) :: groups else (head, [tail]) :: (head', tails) :: groups
    | [] => [(head, [tail])]

/-- The shared states of an automaton with their numbers, last first: each is known by its
transitions. -/
abbrev SharedStates := List (List (Nat × Nat × Nat) × Nat)

/-- Adds the states for sequences of at most `depth` ranges; equal states are shared. The final
state is number 0. -/
def shareStates : Nat → List (List ByteRange) → SharedStates → Nat × SharedStates
  | 0, _, states => (0, states)
  | depth + 1, sequences, states =>
    let (transitions, states) :=
      (groupHeads sequences).foldl
        (fun (transitions, states) (head, tails) =>
          if tails.all (·.isEmpty) then ((head.1, head.2, 0) :: transitions, states)
          else
            let (target, states) := shareStates depth tails states
            ((head.1, head.2, target) :: transitions, states))
        ([], states)
    match states.lookup transitions with
    | some number => (number, states)
    | none => (states.length + 1, (transitions, states.length + 1) :: states)

/-- How many different beginnings the sequences have, the empty one left out. -/
def countPrefixes : Nat → List (List ByteRange) → Nat
  | 0, _ => 0
  | depth + 1, sequences =>
    (groupHeads sequences).foldl (fun total (_, tails) => total + 1 + countPrefixes depth tails) 0

def setFootprint (reversed : Bool) (set : CodeRanges) : Nat :=
  if set.all fun range => range.2 < 128 then
    2 * stateBytes + if set.length = 1 then 0 else transitionBytes * set.length
  else
    let sequences := byteSequences set
    if reversed then
      (2 + countPrefixes 4 sequences) * stateBytes + branchBytes * sequences.length
    else
      let (_, states) := shareStates 4 sequences []
      states.foldl (fun total state => total + stateBytes + transitionBytes * state.1.length)
        stateBytes

/-! ## Nodes -/

def encodingLength (c : Nat) : Nat :=
  if c < 0x80 then 1 else if c < 0x800 then 2 else if c < 0x10000 then 3 else 4

def repetitionFootprint (least : Nat) (most : Option Nat) (nullable : Bool) (body : Nat) : Nat :=
  match most with
  | none =>
    if least = 0 ∧ nullable then body + 3 * stateBytes + 4 * branchBytes
    else max least 1 * body + stateBytes + 2 * branchBytes
  | some most =>
    let optional := stateBytes + 2 * branchBytes + body
    if least = 0 ∧ most = 1 then stateBytes + optional
    else
      let forced := if least = 0 then stateBytes else least * body
      if least = most then forced else forced + stateBytes + (most - least) * optional

def Node.footprint (reversed : Bool) : Node → Nat
  | .empty => stateBytes
  | .one set =>
    match Node.single? (.one set) with
    | some c => encodingLength c * stateBytes
    | none => setFootprint reversed set
  | .look _ => stateBytes
  | .repetition least most body =>
    repetitionFootprint least most body.isNullable (body.footprint reversed)
  | .capture body => body.footprint reversed + if reversed then 0 else 2 * stateBytes
  | .alternation branches =>
    2 * stateBytes + branchBytes * branches.length + footprintOfAll reversed branches
  | .concat parts => footprintOfAll reversed parts
where
  /-- The footprint of a list of nodes. -/
  footprintOfAll (reversed : Bool) : List Node → Nat
    | [] => 0
    | node :: nodes => node.footprint reversed + footprintOfAll reversed nodes

/-- The footprint of the part around the node: the search for a start, the capture of the whole and
the final state. -/
def frameFootprint (reversed : Bool) : Nat :=
  3 * stateBytes + 2 * branchBytes + if reversed then stateBytes else 3 * stateBytes

/-- Whether the automata of a node stay within the limit. -/
def Node.fits (node : Node) : Bool :=
  let node := node.simplified
  [false, true].all fun reversed =>
    node.footprint reversed + frameFootprint reversed ≤ footprintLimit

end Schemata.Pattern
