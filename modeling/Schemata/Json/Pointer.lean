import Schemata.Json.Value
import Schemata.Text.Words

/-!
# Pointers

Places in a document, as the text that leads there: each step behind a slash, with `~0` for a tilde
and `~1` for a slash inside a step.
-/

namespace Schemata.Json

def escapeStep (step : String) : String :=
  String.join <| step.toList.map fun c =>
    if c = '~' then "~0" else if c = '/' then "~1" else String.singleton c

/-- A step of a pointer as it is meant. A tilde before another character stands for itself. -/
def unescapeStep (step : String) : String := String.ofList (go step.toList)
where
  /-- The characters meant. -/
  go : List Char → List Char
    | '~' :: '0' :: rest => '~' :: go rest
    | '~' :: '1' :: rest => '/' :: go rest
    | c :: rest => c :: go rest
    | [] => []

/-- The index that a step names: decimal digits without a leading zero or a sign. -/
def indexOfStep? (step : String) : Option Nat :=
  let digits := step.toList
  if digits.isEmpty ∨ ¬ digits.all Char.isDigit ∨ (digits.head? = some '0' ∧ digits.length ≠ 1) then none
  else some (digits.foldl (fun n c => n * 10 + (c.toNat - 48)) 0)

/-- The steps of a pointer; the empty pointer has none. -/
def pointerSteps? (pointer : String) : Option (List String) :=
  if pointer.isEmpty then some []
  else
    match Text.splitAll '/' pointer with
    | "" :: steps => some (steps.map unescapeStep)
    | _ => none

namespace Value

def child? (document : Value) (step : String) : Option Value :=
  match document with
  | .object members => Entries.get? members step
  | .array items => (indexOfStep? step).bind fun i => items[i]?
  | _ => none

def along? (document : Value) : List String → Option Value
  | [] => some document
  | step :: steps => (document.child? step).bind (·.along? steps)

def at? (document : Value) (pointer : String) : Option Value :=
  (pointerSteps? pointer).bind document.along?

end Value

end Schemata.Json
