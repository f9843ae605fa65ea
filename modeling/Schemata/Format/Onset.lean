import Schemata.Pattern.Basic
import Schemata.Unicode.CaseMap

/-!
# Onsets

The characters that a match of a pattern can begin with, widened where the exact set is costly: an
`Onset` may hold more characters than it should, and never fewer as long as letter case counts. A
letter brings its other case along, because flags are not followed.
-/

namespace Schemata.Format

open Schemata (Pattern)

/-- A widened set of characters. -/
structure Onset where
  /-- Every character. -/
  any : Bool
  /-- Some characters beyond ASCII. -/
  beyondAscii : Bool
  /-- Ranges of code points, both ends included. -/
  ranges : List (Nat × Nat)
  deriving DecidableEq, Repr

namespace Onset

/-! ## Algorithm -/

/-- No character. -/
def none : Onset := ⟨false, false, []⟩

/-- Every character. -/
def all : Onset := ⟨true, false, []⟩

/-- The characters between two code points, in either order. -/
def between (a b : Nat) : Onset := ⟨false, false, [(min a b, max a b)]⟩

/-- A character with its other cases. -/
def ofChar (c : Char) : Onset :=
  let others := (Unicode.lowercase c ++ Unicode.uppercase c).filter (· ≠ c)
  ⟨false, false, (c :: others).map fun x => (x.toNat, x.toNat)⟩

/-- The characters of both sets. -/
def union (a b : Onset) : Onset :=
  ⟨a.any || b.any, a.beyondAscii || b.beyondAscii, a.ranges ++ b.ranges⟩

/-- Whether the set holds nothing. -/
def isEmpty (set : Onset) : Bool := !set.any && !set.beyondAscii && set.ranges.isEmpty

/-- Whether a range of the set goes beyond ASCII. -/
def hasRangeBeyondAscii (set : Onset) : Bool := set.ranges.any fun range => 128 ≤ range.2

/-- Whether two sets may share a character. -/
def overlaps (a b : Onset) : Bool :=
  if a.isEmpty || b.isEmpty then false
  else if a.any || b.any then true
  else if (a.beyondAscii && (b.beyondAscii || b.hasRangeBeyondAscii)) ||
      (b.beyondAscii && a.hasRangeBeyondAscii) then true
  else a.ranges.any fun x => b.ranges.any fun y => x.1 ≤ y.2 && y.1 ≤ x.2

/-- The characters of a one-letter class. -/
def ofPerl (cls : Pattern.PerlClass) : Onset :=
  if cls.negated then all
  else
    match cls.kind with
    | .digit => ⟨false, true, [(48, 57)]⟩
    | .space => ⟨false, true, [(9, 13), (32, 32)]⟩
    | .word => ⟨false, true, [(48, 57), (65, 90), (97, 122), (95, 95)]⟩

def ofClass : Pattern.ClassSet → Onset
  | .empty => none
  | .literal l => ofChar l.char
  | .range first last => between first.char.toNat last.char.toNat
  | .ascii _ _ _ => all
  | .property _ => all
  | .perl cls => ofPerl cls
  | .bracketed _ negated body => if negated then all else ofClass body
  | .union items => ofItems items
  | .operation _ _ _ => all
where
  /-- The characters of all items together. -/
  ofItems : List Pattern.ClassSet → Onset
    | [] => none
    | item :: items => (ofClass item).union (ofItems items)

/-- The characters that a match of a pattern can begin with, and whether it can match the empty
text. -/
def ofPattern : Pattern → Onset × Bool
  | .empty => (none, true)
  | .flags _ => (none, true)
  | .assertion _ => (none, true)
  | .literal l => (ofChar l.char, false)
  | .dot _ => (all, false)
  | .property _ => (all, false)
  | .perl cls => (ofPerl cls, false)
  | .bracketed _ negated body => (if negated then all else ofClass body, false)
  | .repetition kind body =>
    let (set, nullable) := ofPattern body
    (set, nullable || kind.least = 0)
  | .group _ body => ofPattern body
  | .alternation branches => ofBranches branches
  | .concat parts => ofParts parts
where
  /-- The beginnings of the branches together. -/
  ofBranches : List Pattern → Onset × Bool
    | [] => (none, false)
    | branch :: branches =>
      let (set, nullable) := ofPattern branch
      let (others, othersNullable) := ofBranches branches
      (set.union others, nullable || othersNullable)
  /-- The beginnings of the parts up to the first that cannot be empty. -/
  ofParts : List Pattern → Onset × Bool
    | [] => (none, true)
    | part :: parts =>
      let (set, nullable) := ofPattern part
      if nullable then
        let (others, othersNullable) := ofParts parts
        (set.union others, othersNullable)
      else (set, false)

end Onset

end Schemata.Format
