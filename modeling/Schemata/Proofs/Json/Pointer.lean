import Schemata.Json.Pointer

/-!
# Steps of pointers

A step that is written into a pointer is read back as it was, whatever its characters are, and the
rest of the pointer is read behind it.

    unescapeStep (escapeStep s) = s                                  (unescapeStep_escapeStep)
    "/" ++ escapeStep s ++ p leads one step s and then along p        (pointerSteps?_cons)
    the way along two lists of steps is the way along one and then the other    (along?_append)
-/

namespace Schemata.Json

/-! ## Algorithm -/

def escapeStepChar (c : Char) : List Char :=
  if c = '~' then ['~', '0'] else if c = '/' then ['~', '1'] else [c]

/-! ## Steps -/

theorem toList_escapeStep (step : String) :
    (escapeStep step).toList = step.toList.flatMap escapeStepChar := by
  unfold escapeStep
  rw [String.toList_join, List.flatMap_map]
  refine congrArg (fun f => step.toList.flatMap f) (funext fun c => ?_)
  unfold escapeStepChar
  split
  · rfl
  · split <;> simp

theorem slash_not_mem_escapeStep (step : String) : '/' ∉ (escapeStep step).toList := by
  rw [toList_escapeStep, List.mem_flatMap]
  rintro ⟨c, -, hmem⟩
  unfold escapeStepChar at hmem
  split at hmem
  · simp at hmem
  · split at hmem
    · simp at hmem
    · next hslash => exact hslash (List.mem_singleton.1 hmem).symm

theorem unescape_escape (cs : List Char) : unescapeStep.go (cs.flatMap escapeStepChar) = cs := by
  induction cs with
  | nil => rfl
  | cons c cs ih =>
    rw [List.flatMap_cons]
    by_cases htilde : c = '~'
    · subst htilde
      simp [escapeStepChar, unescapeStep.go, ih]
    · by_cases hslash : c = '/'
      · subst hslash
        simp [escapeStepChar, unescapeStep.go, ih]
      · have hc : escapeStepChar c = [c] := by simp [escapeStepChar, htilde, hslash]
        rw [hc, List.singleton_append, unescapeStep.go, ih]
        · rintro rest rfl
          exact absurd rfl htilde
        · rintro rest rfl
          exact absurd rfl htilde

theorem unescapeStep_escapeStep (step : String) : unescapeStep (escapeStep step) = step := by
  unfold unescapeStep
  rw [toList_escapeStep, unescape_escape, String.ofList_toList]

/-! ## Pointers -/

/-- The part in front of a separator is the first one. -/
theorem splitChars_append {c : Char} {front : List Char} (h : c ∉ front) (rest : List Char) :
    Text.splitChars c (front ++ c :: rest) = front :: Text.splitChars c rest := by
  induction front with
  | nil => simp [Text.splitChars]
  | cons d front ih =>
    rw [List.mem_cons, not_or] at h
    rw [List.cons_append, Text.splitChars, if_neg (Ne.symm h.1), ih h.2]

theorem splitChars_of_not_mem {c : Char} {text : List Char} (h : c ∉ text) :
    Text.splitChars c text = [text] := by
  induction text with
  | nil => rfl
  | cons d text ih =>
    rw [List.mem_cons, not_or] at h
    rw [Text.splitChars, if_neg (Ne.symm h.1), ih h.2]

/-- A pointer is empty, or it is a slash with the steps behind it. -/
theorem pointerSteps?_eq_some {pointer : String} {steps : List String}
    (h : pointerSteps? pointer = some steps) :
    (pointer = "" ∧ steps = []) ∨
      ∃ rest, pointer.toList = '/' :: rest ∧
        steps = (Text.splitChars '/' rest).map fun part => unescapeStep (String.ofList part) := by
  unfold pointerSteps? at h
  split at h
  · next hempty =>
    cases h
    exact Or.inl ⟨String.isEmpty_iff.1 hempty, rfl⟩
  · next hempty =>
    right
    split at h
    · next parts hparts =>
      cases h
      cases hchars : pointer.toList with
      | nil => exact absurd (String.isEmpty_iff.2 (String.toList_eq_nil_iff.1 hchars)) hempty
      | cons c rest =>
        unfold Text.splitAll at hparts
        rw [hchars, Text.splitChars] at hparts
        split at hparts
        · next hslash =>
          rw [List.map_cons, List.cons.injEq] at hparts
          refine ⟨rest, by rw [hslash], ?_⟩
          rw [← hparts.2, List.map_map]
          rfl
        · split at hparts <;> simp at hparts
    · cases h

/-- A step at the front of a pointer. -/
theorem pointerSteps?_cons (step : String) {pointer : String} {steps : List String}
    (h : pointerSteps? pointer = some steps) :
    pointerSteps? ("/" ++ escapeStep step ++ pointer) = some (step :: steps) := by
  have hchars : ("/" ++ escapeStep step ++ pointer).toList =
      '/' :: ((escapeStep step).toList ++ pointer.toList) := by
    simp [String.toList_append]
  have hfront := slash_not_mem_escapeStep step
  have hempty : ("/" ++ escapeStep step ++ pointer).isEmpty = false := by
    rw [Bool.eq_false_iff]
    intro hempty
    rw [String.isEmpty_iff.1 hempty] at hchars
    cases hchars
  unfold pointerSteps? Text.splitAll
  rw [hempty, if_neg Bool.false_ne_true, hchars, Text.splitChars, if_pos rfl, List.map_cons]
  rcases pointerSteps?_eq_some h with ⟨rfl, rfl⟩ | ⟨rest, hrest, rfl⟩
  · rw [String.toList_empty, List.append_nil, splitChars_of_not_mem hfront]
    simp [unescapeStep_escapeStep]
  · rw [hrest, splitChars_append hfront]
    simp [unescapeStep_escapeStep]

/-! ## Ways -/

namespace Value

theorem along?_cons (document : Value) (step : String) (steps : List String) :
    document.along? (step :: steps) = (document.child? step).bind (·.along? steps) := rfl

theorem along?_append (document : Value) (front rest : List String) :
    document.along? (front ++ rest) = (document.along? front).bind (·.along? rest) := by
  induction front generalizing document with
  | nil => rfl
  | cons step front ih =>
    rw [List.cons_append, along?_cons, along?_cons, Option.bind_assoc]
    refine congrArg _ (funext fun child => ih child)

end Value

end Schemata.Json
