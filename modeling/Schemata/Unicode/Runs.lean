/-!
# Sets of code points

Sets of code points as lists of ranges, and the text forms that the property tables of this folder
are written in: runs of equal value, gaps and lengths, and runs of mappings with one offset.

    contains (ofList pairs) c = pairs.any (fun r => r.1 ≤ c ∧ c ≤ r.2)
    contains (negate set) c = !contains set c          for c up to the last code point
-/

namespace Schemata.Unicode

def lastCodePoint : Nat := 0x10FFFF

/-- Ranges of code points, both ends included, in ascending order and with gaps between them. -/
abbrev CodeRanges := List (Nat × Nat)

namespace CodeRanges

/-! ## Algorithm -/

/-- Whether a code point lies in one of the ranges. -/
def contains (set : CodeRanges) (c : Nat) : Bool := set.any fun range => range.1 ≤ c && c ≤ range.2

/-- Joins ranges in ascending order of their starts wherever they touch. -/
def joined : List (Nat × Nat) → CodeRanges
  | [] => []
  | (lo, hi) :: rest =>
    match joined rest with
    | [] => [(lo, hi)]
    | (lo', hi') :: tail =>
      if lo' ≤ hi + 1 then (lo, max hi hi') :: tail else (lo, hi) :: (lo', hi') :: tail

/-- The set that holds the given ranges. -/
def ofList (ranges : List (Nat × Nat)) : CodeRanges :=
  joined ((ranges.filter fun range => range.1 ≤ range.2).mergeSort fun a b => a.1 ≤ b.1)

/-- The set of one character. -/
def single (c : Char) : CodeRanges := [(c.toNat, c.toNat)]

/-- The code points in either set. -/
def union (a b : CodeRanges) : CodeRanges := ofList (a ++ b)

def gapsFrom : Nat → CodeRanges → CodeRanges
  | first, [] => if first ≤ lastCodePoint then [(first, lastCodePoint)] else []
  | first, (lo, hi) :: rest =>
    if first < lo then (first, lo - 1) :: gapsFrom (hi + 1) rest else gapsFrom (max first (hi + 1)) rest

/-- The code points outside a set. -/
def negate (set : CodeRanges) : CodeRanges := gapsFrom 0 set

/-- The code points in both sets. -/
def intersect (a b : CodeRanges) : CodeRanges := negate (union (negate a) (negate b))

/-- The code points of the first set that are not in the second. -/
def difference (a b : CodeRanges) : CodeRanges := negate (union (negate a) b)

/-- The code points in exactly one of the sets. -/
def symmetricDifference (a b : CodeRanges) : CodeRanges :=
  difference (union a b) (intersect a b)

end CodeRanges

/-! ## Text forms -/

def tableWords (lines : List String) : List String := lines.flatMap (·.splitOn " ")

def tableNumber (word : String) : Nat := word.toNat?.getD 0

def readRuns (text : List String) : List (String × Nat) := pairs (tableWords text)
where
  /-- Two words a run. -/
  pairs : List String → List (String × Nat)
    | value :: length :: rest => (value, tableNumber length) :: pairs rest
    | _ => []

/-- The code points whose run has a value that satisfies the test. -/
def rangesOfRuns (test : String → Bool) (runs : List (String × Nat)) : CodeRanges :=
  CodeRanges.joined (collect 0 runs)
where
  /-- The ranges of the runs from a code point on. -/
  collect : Nat → List (String × Nat) → List (Nat × Nat)
    | _, [] => []
    | start, (value, length) :: rest =>
      if test value then (start, start + length - 1) :: collect (start + length) rest
      else collect (start + length) rest

/-- The set whose table gives, in turn, the length of a gap and the length of the range behind it. -/
def readGaps (text : List String) : CodeRanges := collect 0 (tableWords text)
where
  /-- The ranges from a code point on. -/
  collect : Nat → List String → CodeRanges
    | start, gap :: length :: rest =>
      let lo := start + tableNumber gap
      let next := lo + tableNumber length
      (lo, next - 1) :: collect next rest
    | _, _ => []

/-- Mappings of `count` code points that lie `step` apart to targets that lie as far apart. -/
structure MappingRun where
  /-- The first code point. -/
  start : Nat
  /-- How many code points are mapped. -/
  count : Nat
  /-- The distance between two of them. -/
  step : Nat
  /-- The image of the first one. -/
  target : Nat

namespace MappingRun

def pairs (run : MappingRun) : List (Nat × Nat) :=
  (List.range run.count).map fun i => (run.start + i * run.step, run.target + i * run.step)

def image? (run : MappingRun) (c : Nat) : Option Nat :=
  if run.start ≤ c ∧ c < run.start + run.count * run.step ∧ (c - run.start) % run.step = 0 then
    some (run.target + (c - run.start))
  else none

end MappingRun

/-- Four words a run: start, count, step, target. -/
def readMappingRuns (text : List String) : List MappingRun := collect (tableWords text)
where
  /-- The runs of the words. -/
  collect : List String → List MappingRun
    | start :: count :: step :: target :: rest =>
      ⟨tableNumber start, tableNumber count, tableNumber step, tableNumber target⟩ :: collect rest
    | _ => []

/-- The image of a code point under the first run that maps it. -/
def findMapping? (runs : List MappingRun) (c : Nat) : Option Nat :=
  runs.findSome? fun run => run.image? c

end Schemata.Unicode
