import Schemata.Json.Value
import Schemata.Proofs.EntryOrder

/-!
# Ways into documents

A way into a document goes step by step, to a member of an object or to an item of a list. Unlike the
steps of a pointer, those of a way tell the two kinds apart, so that a member called `0` is not the
first item.

    a way goes on where its first step leads                             (part?_cons_eq_some)
    a part of a list is a part of each longer one                        (part?_array_append)
-/

namespace Schemata.Json

/-- One step into a document. -/
inductive Step where
  /-- To a member of an object. -/
  | member (key : String)
  /-- To an item of a list. -/
  | item (index : Nat)
  deriving DecidableEq, Repr

namespace Value

/-! ## Algorithm -/

def step? : Value → Step → Option Value
  | .object members, .member key => Entries.get? members key
  | .array items, .item index => items[index]?
  | _, _ => none

def part? (document : Value) : List Step → Option Value
  | [] => some document
  | step :: steps => (document.step? step).bind (·.part? steps)

/-! ## Ways -/

/-- A way goes on where its first step leads. -/
theorem part?_cons_eq_some {document part : Value} {step : Step} {steps : List Step} :
    document.part? (step :: steps) = some part ↔
      ∃ child, document.step? step = some child ∧ child.part? steps = some part := by
  rw [part?, Option.bind_eq_some_iff]

/-- Only objects have members, and only lists have items. -/
theorem step?_cases {document child : Value} {step : Step} (h : document.step? step = some child) :
    (∃ members key, document = .object members ∧ step = .member key ∧
      Entries.get? members key = some child) ∨
    (∃ items index, document = .array items ∧ step = .item index ∧ items[index]? = some child) := by
  cases document with
  | object members =>
    cases step with
    | member key => exact Or.inl ⟨members, key, rfl, rfl, h⟩
    | item index => cases h
  | array items =>
    cases step with
    | member key => cases h
    | item index => exact Or.inr ⟨items, index, rfl, rfl, h⟩
  | _ => cases step <;> cases h

/-- Items behind those of a list do not move its parts. -/
theorem part?_array_append {items : List Value} {step : Step} {steps : List Step} {part : Value}
    (h : (Value.array items).part? (step :: steps) = some part) (more : List Value) :
    (Value.array (items ++ more)).part? (step :: steps) = some part := by
  obtain ⟨child, hchild, hpart⟩ := part?_cons_eq_some.1 h
  refine part?_cons_eq_some.2 ⟨child, ?_, hpart⟩
  cases step with
  | member key => cases hchild
  | item index =>
    have hitem : items[index]? = some child := hchild
    have hindex : index < items.length := (List.getElem?_eq_some_iff.1 hitem).1
    show (items ++ more)[index]? = some child
    rw [List.getElem?_append_left hindex]
    exact hitem

end Value

end Schemata.Json
