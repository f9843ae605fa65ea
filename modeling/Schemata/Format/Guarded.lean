import Schemata.Format.Guard
import Schemata.Pattern.Meaning
import Schemata.Pattern.Matching
import Schemata.Pattern.Footprint

/-!
# Guarded formats

A format that went through the guard. A pattern that is hazardous, or that does not compile, is
replaced by one that matches every text, and so is never run.
-/

namespace Schemata.Format

open Schemata (Pattern)

/-- The pattern that is installed in place of a hazardous one: it matches every text. -/
def permissivePattern : String := "(?s)^.*$"

/-- A format with the pattern that was asked for and the one that was installed. -/
structure GuardedFormat where
  /-- The name. -/
  name : String
  /-- The pattern that was asked for. -/
  requested : String
  /-- The pattern that is installed. -/
  installed : String
  /-- What the guard said. -/
  verdict : Verdict
  /-- The meaning of the installed pattern, unless it is the permissive one in place of another. -/
  node : Option Pattern.Node

namespace GuardedFormat

/-- Whether the pattern was replaced. -/
def substituted (format : GuardedFormat) : Bool := format.installed ≠ format.requested

def isMatch (format : GuardedFormat) (text : String) : Bool :=
  match format.node with
  | some node => node.matchesIn text
  | none => true

end GuardedFormat

/-- The meaning of a pattern that is safe and compiles within the limit. -/
def compile (text : String) : Except Hazard Pattern.Node :=
  match Pattern.read text with
  | .error fault => .error (.unreadable fault)
  | .ok pattern =>
    match hazard? pattern with
    | some hazard => .error hazard
    | none =>
      match pattern.meaning with
      | .error refusal => .error (.refused refusal)
      | .ok node => if node.fits then .ok node else .error (.tooLarge Pattern.footprintLimit)

/-- The format to install under a name: with the pattern itself where it is safe and compiles, with
the permissive one otherwise. -/
def guard (name pattern : String) : GuardedFormat :=
  match compile pattern with
  | .ok node => ⟨name, pattern, pattern, .safe, some node⟩
  | .error hazard => ⟨name, pattern, permissivePattern, .hazardous hazard, none⟩

end Schemata.Format
