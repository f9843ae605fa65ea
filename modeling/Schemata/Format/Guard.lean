import Schemata.Format.Onset
import Schemata.Pattern.Reader
import Schemata.Pattern.Refusal

/-!
# The format guard

Finds patterns that a backtracking matcher may take exponential time for, by two rules on what is
repeated without a bound:

* no part of it that may go round a varying number of times begins like it;
* of the branches of a choice, none can be empty and no two begin alike.

The pattern is not run. A count of more than `boundLimit` rounds is taken for no bound.
-/

namespace Schemata

namespace Format

open Schemata (Pattern)

/-- Why a pattern is not installed. -/
inductive Hazard where
  /-- The text is no pattern. -/
  | unreadable (fault : Pattern.Fault)
  /-- A varying repetition inside a repetition begins like it. -/
  | nestedRepetition
  /-- A branch of a repeated choice can be empty. -/
  | emptyBranch
  /-- Two branches of a repeated choice begin alike. -/
  | overlappingBranches
  /-- The pattern has no meaning. -/
  | refused (refusal : Pattern.Refusal)
  /-- The automata of the pattern are too large. -/
  | tooLarge (limit : Nat)
  deriving DecidableEq, Repr

def Hazard.message (pattern : String) : Hazard → String
  | unreadable fault => "unsupported pattern syntax: " ++ fault.message
  | nestedRepetition =>
    "nested quantifier over a character class overlapping its enclosing repetition"
  | emptyBranch => "repeated alternation with an empty branch"
  | overlappingBranches => "repeated alternation with overlapping branches"
  | refused refusal => "pattern does not compile: " ++ refusal.render pattern
  | tooLarge limit =>
    "pattern does not compile: Compiled regex exceeds size limit of " ++ toString limit ++ " bytes."

/-- What the guard says of a pattern. -/
inductive Verdict where
  /-- It may be installed. -/
  | safe
  /-- It may not. -/
  | hazardous (hazard : Hazard)
  deriving DecidableEq, Repr

/-! ## Analysis -/

/-- The greatest count that is still a bound. -/
def boundLimit : Nat := 10

end Format

namespace Pattern.RepetitionKind

/-- Whether a repetition counts as going round without a bound. -/
def isUnbounded : RepetitionKind → Bool
  | zeroOrMore => true
  | oneOrMore => true
  | zeroOrOne => false
  | atLeast _ => true
  | exactly count => Format.boundLimit < count
  | bounded _ most => Format.boundLimit < most

/-- Whether a repetition may go round a varying number of times. -/
def isVariable : RepetitionKind → Bool
  | exactly _ => false
  | bounded least most => least ≠ most
  | _ => true

end Pattern.RepetitionKind

namespace Format

/-- The bodies of the repetitions in a pattern that may go round a varying number of times. -/
def variableBodies : Pattern → List Pattern
  | .repetition kind body =>
    if kind.isVariable then body :: variableBodies body else variableBodies body
  | .group _ body => variableBodies body
  | .alternation branches => ofAll branches
  | .concat parts => ofAll parts
  | _ => []
where
  /-- The bodies in a list of patterns. -/
  ofAll : List Pattern → List Pattern
    | [] => []
    | part :: parts => variableBodies part ++ ofAll parts

/-- The branches of a pattern that is a choice, perhaps in parentheses. -/
def branchesOf : Pattern → List Pattern
  | .group _ body => branchesOf body
  | .alternation branches => branches
  | _ => []

/-- The first hazard among branches: one that can be empty, or that begins like a later one. -/
def branchHazard? : List (Onset × Bool) → Option Hazard
  | [] => none
  | (set, nullable) :: rest =>
    if nullable then some .emptyBranch
    else if rest.any fun other => set.overlaps other.1 then some .overlappingBranches
    else branchHazard? rest

/-- What is wrong with the body of an unbounded repetition. -/
def bodyHazard? (body : Pattern) : Option Hazard :=
  let onset := (Onset.ofPattern body).1
  if (variableBodies body).any fun inner => (Onset.ofPattern inner).1.overlaps onset then
    some .nestedRepetition
  else branchHazard? ((branchesOf body).map Onset.ofPattern)

/-- The first hazard of a pattern, outer repetitions before inner ones. -/
def hazard? : Pattern → Option Hazard
  | .repetition kind body =>
    (if kind.isUnbounded then bodyHazard? body else none) <|> hazard? body
  | .group _ body => hazard? body
  | .alternation branches => hazardOfAll? branches
  | .concat parts => hazardOfAll? parts
  | _ => none
where
  /-- The first hazard of a list of patterns. -/
  hazardOfAll? : List Pattern → Option Hazard
    | [] => none
    | part :: parts => hazard? part <|> hazardOfAll? parts

/-- What the guard says of a text as a pattern. -/
def analyze (text : String) : Verdict :=
  match Pattern.read text with
  | .error fault => .hazardous (.unreadable fault)
  | .ok pattern =>
    match hazard? pattern with
    | some hazard => .hazardous hazard
    | none => .safe

end Format

end Schemata
