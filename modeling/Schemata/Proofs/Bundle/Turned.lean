import Schemata.Proofs.Bundle.References
import Schemata.Proofs.Json.Pointer

/-!
# Turned references

Rewriting does nothing but turn the references that it meets, each by itself. What it is turned to
depends on the keys of names, and names keep the keys that they get: the keys of the end give the
same references.

    rewrite scope v s = .ok (v', s') → v' = v with all references turned          (rewrite_turned)
    a turned reference names no schema                                              (before_turn)
    it is the reference itself only if it was local, and an anchor in a copy  (turn_eq_self_iff)
    references are where they were, and so is everything else
                                              (along?_reference, along?_mapReferences_isSome)
-/

namespace Schemata.Bundle

open Json (Value)

/-! ## Algorithm -/

/-- The key of a name; the empty text without one. -/
def DefKeys.keyOf (keys : DefKeys) (name : String) : String := (keys.byName.lookup name).getD ""

/-- A reference turned to a copy, by the keys of names. It stands in the copy under a key, or in the
bundled document. -/
def turn (rootName : String) (key : String → String) (here : Option String) (reference : String) :
    String :=
  let target := Text.before '#' reference
  let fragment := Text.behind '#' reference
  if target.isEmpty then
    match here with
    | some key => referenceInto key fragment
    | none => reference
  else if target = rootName then "#" ++ fragment
  else referenceInto (key target) fragment

/-- Whether a fragment is the name of an anchor: it is not empty, and no pointer. -/
def IsAnchor (fragment : String) : Prop := fragment ≠ "" ∧ Text.startsWith '/' fragment = false

instance (fragment : String) : Decidable (IsAnchor fragment) :=
  inferInstanceAs (Decidable (fragment ≠ "" ∧ Text.startsWith '/' fragment = false))

/-- A `$ref` with its text changed. -/
def mapReference (f : String → String) : Value → Value
  | .string reference => .string (f reference)
  | other => other

mutual
/-- A document with the references changed that rewriting meets. -/
def mapReferences (f : String → String) : Value → Value
  | .object members => .object (mapReferencesMembers f members)
  | .array items => .array (mapReferencesItems f items)
  | other => other

def mapReferencesItems (f : String → String) : List Value → List Value
  | [] => []
  | item :: items => mapReferences f item :: mapReferencesItems f items

def mapReferencesMembers (f : String → String) :
    List (String × Value) → List (String × Value)
  | [] => []
  | (key, member) :: members =>
    (key, if key = "$ref" then mapReference f member else mapReferences f member)
      :: mapReferencesMembers f members
end

/-! ## Turning -/

theorem keeps_foldl (asked : List String) (state : State) :
    state.keys.Extends (asked.foldl State.ask state).keys := by
  induction asked generalizing state with
  | nil => exact .refl state.keys
  | cons target asked ih => exact (DefKeys.extends_keyFor state.keys target).trans (ih (state.ask target))

theorem Asks.keeps {scope : Scope} {references : List String} {before after : State}
    (h : Asks scope references before after) : before.keys.Extends after.keys :=
  h.state ▸ keeps_foldl _ before

theorem DefKeys.lookup_keyFor (keys : DefKeys) (name : String) :
    (keys.keyFor name).2.byName.lookup name = some (keys.keyFor name).1 := by
  by_cases hmem : name ∈ keys.names
  · obtain ⟨key, hlookup, heq⟩ := keyFor_of_mem hmem
    rw [heq]
    exact hlookup
  · rw [keyFor_of_not_mem hmem]
    simp

theorem DefKeys.keyOf_of_lookup {keys : DefKeys} {name key : String}
    (h : keys.byName.lookup name = some key) : keys.keyOf name = key := by
  unfold keyOf
  rw [h]
  rfl

variable {scope : Scope} {keys : DefKeys}

/-- A reference gets the key that its name has in the end. -/
theorem rewriteReference_turned {reference : String} {state : State} {result : String × State}
    (h : rewriteReference scope reference state = .ok result) (hkeeps : result.2.keys.Extends keys) :
    result.1 = turn scope.rootName keys.keyOf scope.key reference := by
  unfold rewriteReference at h
  unfold turn
  dsimp only at h ⊢
  split at h
  · next hempty =>
    rw [if_pos hempty]
    cases hkey : scope.key with
    | some key =>
      rw [hkey] at h
      cases h
      rfl
    | none =>
      rw [hkey] at h
      cases h
      rfl
  · next hempty =>
    rw [if_neg hempty]
    split at h
    · next hroot => cases h; rw [if_pos hroot]
    · next hroot =>
      rw [if_neg hroot]
      split at h
      · cases h
      · cases h
        have hlookup := hkeeps _ _ (state.keys.lookup_keyFor (Text.before '#' reference))
        rw [DefKeys.keyOf_of_lookup hlookup]

theorem rewriteMember_turned {name : String} {member : Value} {state : State}
    {result : Value × State} (hrewrite : ∀ {state result}, rewrite scope member state = .ok result →
      result.2.keys.Extends keys →
        result.1 = mapReferences (turn scope.rootName keys.keyOf scope.key) member)
    (h : rewriteMember scope name member state = .ok result) (hkeeps : result.2.keys.Extends keys) :
    result.1 =
      if name = "$ref" then mapReference (turn scope.rootName keys.keyOf scope.key) member
      else mapReferences (turn scope.rootName keys.keyOf scope.key) member := by
  unfold rewriteMember at h
  split at h
  · next hname =>
    rw [if_pos hname]
    cases member with
    | string reference =>
      dsimp only at h
      cases hturned : rewriteReference scope reference state with
      | error failure => rw [hturned] at h; cases h
      | ok turned =>
        rw [hturned] at h
        cases h
        exact congrArg Value.string (rewriteReference_turned hturned hkeeps)
    | _ => cases h; rfl
  · next hname =>
    rw [if_neg hname]
    exact hrewrite h hkeeps

mutual
/-- Rewriting turns all references by the keys that names have in the end. -/
theorem rewrite_turned : ∀ {value : Value} {state : State} {result : Value × State},
    rewrite scope value state = .ok result → result.2.keys.Extends keys →
      result.1 = mapReferences (turn scope.rootName keys.keyOf scope.key) value
  | .object members, state, result, h, hkeeps => by
    obtain ⟨rewritten, hmembers, h⟩ := bind_eq_ok_iff.1 h
    cases h
    exact congrArg Value.object (rewriteMembers_turned hmembers hkeeps)
  | .array items, state, result, h, hkeeps => by
    obtain ⟨rewritten, hitems, h⟩ := bind_eq_ok_iff.1 h
    cases h
    exact congrArg Value.array (rewriteItems_turned hitems hkeeps)
  | .null, state, result, h, _ => by cases h; rfl
  | .bool _, state, result, h, _ => by cases h; rfl
  | .number _, state, result, h, _ => by cases h; rfl
  | .string _, state, result, h, _ => by cases h; rfl

theorem rewriteItems_turned :
    ∀ {items : List Value} {state : State} {result : List Value × State},
      rewriteItems scope items state = .ok result → result.2.keys.Extends keys →
        result.1 = mapReferencesItems (turn scope.rootName keys.keyOf scope.key) items
  | [], state, result, h, _ => by cases h; rfl
  | item :: items, state, result, h, hkeeps => by
    obtain ⟨first, hfirst, h⟩ := bind_eq_ok_iff.1 h
    obtain ⟨rest, hrest, h⟩ := bind_eq_ok_iff.1 h
    cases h
    have hitems := rewriteItems_turned hrest hkeeps
    have hitem := rewrite_turned hfirst ((rewriteItems_asks hrest).keeps.trans hkeeps)
    unfold mapReferencesItems
    rw [← hitem, ← hitems]

theorem rewriteMembers_turned :
    ∀ {members : List (String × Value)} {state : State} {result : List (String × Value) × State},
      rewriteMembers scope members state = .ok result → result.2.keys.Extends keys →
        result.1 = mapReferencesMembers (turn scope.rootName keys.keyOf scope.key) members
  | [], state, result, h, _ => by cases h; rfl
  | (name, member) :: members, state, result, h, hkeeps => by
    rw [rewriteMembers_cons] at h
    obtain ⟨first, hfirst, h⟩ := bind_eq_ok_iff.1 h
    obtain ⟨rest, hrest, h⟩ := bind_eq_ok_iff.1 h
    cases h
    have hmembers := rewriteMembers_turned hrest hkeeps
    have hmember := rewriteMember_turned (fun h hkeeps => rewrite_turned h hkeeps) hfirst
      ((rewriteMembers_asks hrest).keeps.trans hkeeps)
    unfold mapReferencesMembers
    rw [← hmember, ← hmembers]
end

/-! ## Turned references as texts -/

theorem before_hash (text : String) : Text.before '#' ("#" ++ text) = "" := by
  simp [Text.before, String.toList_append]

theorem behind_hash (text : String) : Text.behind '#' ("#" ++ text) = text := by
  simp [Text.behind, String.toList_append]

/-- A reference without a name is what stands behind the sign, unless it is empty. -/
theorem hash_behind {reference : String} (hlocal : Text.before '#' reference = "")
    (hne : reference ≠ "") : "#" ++ Text.behind '#' reference = reference := by
  apply String.toList_inj.1
  have hchars : reference.toList.takeWhile (· ≠ '#') = [] := by
    have h := congrArg String.toList hlocal
    rwa [Text.before, String.toList_ofList, String.toList_empty] at h
  rw [Text.behind, String.toList_append, String.toList_ofList]
  cases hreference : reference.toList with
  | nil => exact absurd (String.toList_eq_nil_iff.1 hreference) hne
  | cons c rest =>
    rw [hreference] at hchars
    by_cases hc : c = '#'
    · subst hc
      simp
    · simp [hc] at hchars

theorem isAnchor_iff {fragment : String} :
    IsAnchor fragment ↔ ¬ (fragment.isEmpty ∨ Text.startsWith '/' fragment) := by
  rw [not_or, Bool.not_eq_true, Bool.not_eq_true, IsAnchor, String.isEmpty_eq_false_iff]

theorem referenceInto_of_anchor {fragment : String} (h : IsAnchor fragment) (key : String) :
    referenceInto key fragment = "#" ++ fragment := if_neg (isAnchor_iff.1 h)

theorem referenceInto_of_pointer {fragment : String} (h : ¬ IsAnchor fragment) (key : String) :
    referenceInto key fragment = "#/$defs/" ++ Json.escapeStep key ++ fragment :=
  if_pos (Decidable.not_not.1 (mt isAnchor_iff.2 h))

theorem referenceInto_eq_append (key fragment : String) :
    ∃ rest, referenceInto key fragment = "#" ++ rest := by
  unfold referenceInto
  split
  · exact ⟨"/$defs/" ++ Json.escapeStep key ++ fragment, by
      rw [← String.append_assoc, ← String.append_assoc]; rfl⟩
  · exact ⟨fragment, rfl⟩

/-- A turned reference names no schema. -/
theorem before_turn (rootName : String) (key : String → String) (here : Option String)
    (reference : String) : Text.before '#' (turn rootName key here reference) = "" := by
  have hinto : ∀ key fragment, Text.before '#' (referenceInto key fragment) = "" := by
    intro key fragment
    obtain ⟨rest, hrest⟩ := referenceInto_eq_append key fragment
    rw [hrest, before_hash]
  unfold turn
  dsimp only
  split
  · next hempty =>
    cases here with
    | some key => exact hinto key _
    | none => exact String.isEmpty_iff.1 hempty
  · split
    · exact before_hash _
    · exact hinto _ _

/-- Only a reference that leads to an anchor of its own copy stays what it is there, and in the
bundled document only a local one. -/
theorem turn_eq_self_iff {rootName : String} {key : String → String} {here : Option String}
    {reference : String} : turn rootName key here reference = reference ↔
      Text.before '#' reference = "" ∧ (here ≠ none → IsAnchor (Text.behind '#' reference)) := by
  constructor
  · intro h
    have hlocal : Text.before '#' reference = "" := h ▸ before_turn rootName key here reference
    refine ⟨hlocal, fun hhere => Decidable.byContradiction fun hpointer => ?_⟩
    obtain ⟨copy, rfl⟩ := Option.ne_none_iff_exists'.1 hhere
    unfold turn at h
    dsimp only at h
    rw [hlocal, if_pos (by rfl), referenceInto_of_pointer hpointer] at h
    -- the pointer into the copy is longer than the fragment behind it
    have hlength := congrArg (fun text => (Text.behind '#' text).length) h
    have hhash : "#/$defs/" = "#" ++ "/$defs/" := by decide
    rw [hhash, String.append_assoc, String.append_assoc, behind_hash, String.length_append,
      String.length_append] at hlength
    have hdefs : "/$defs/".length = 7 := by decide
    omega
  · rintro ⟨hlocal, hanchor⟩
    unfold turn
    dsimp only
    rw [hlocal, if_pos (by rfl)]
    cases here with
    | none => rfl
    | some copy =>
      have hfragment := hanchor (Option.some_ne_none copy)
      dsimp only
      rw [referenceInto_of_anchor hfragment]
      refine hash_behind hlocal ?_
      rintro rfl
      exact hfragment.1 (by decide)

/-- A reference into a copy leads to its key, and from there along the fragment. -/
theorem pointerSteps?_referenceInto (key : String) {fragment : String} {steps : List String}
    (h : Json.pointerSteps? fragment = some steps) :
    Json.pointerSteps? (Text.behind '#' (referenceInto key fragment)) =
      some ("$defs" :: key :: steps) := by
  have hpointer : fragment.isEmpty ∨ Text.startsWith '/' fragment := by
    rcases Json.pointerSteps?_eq_some h with ⟨rfl, -⟩ | ⟨rest, hrest, -⟩
    · exact Or.inl rfl
    · exact Or.inr (by simp [Text.startsWith, hrest])
  have htext : referenceInto key fragment =
      "#" ++ ("/" ++ Json.escapeStep "$defs" ++ ("/" ++ Json.escapeStep key ++ fragment)) := by
    have hdefs : "#/$defs/" = "#" ++ "/" ++ Json.escapeStep "$defs" ++ "/" := by decide
    unfold referenceInto
    rw [if_pos hpointer, hdefs]
    simp only [String.append_assoc]
  rw [htext, behind_hash]
  exact Json.pointerSteps?_cons "$defs" (Json.pointerSteps?_cons key h)

/-! ## Places of references -/

variable {f : String → String}

theorem get?_mapReferencesMembers (members : List (String × Value)) (name : String) :
    Entries.get? (mapReferencesMembers f members) name =
      (Entries.get? members name).map fun member =>
        if name = "$ref" then mapReference f member else mapReferences f member := by
  induction members with
  | nil => rfl
  | cons head members ih =>
    obtain ⟨key, member⟩ := head
    rw [mapReferencesMembers, Entries.get?_cons, Entries.get?_cons]
    split
    · next hkey => rw [hkey]; rfl
    · exact ih

theorem getElem?_mapReferencesItems (items : List Value) (i : Nat) :
    (mapReferencesItems f items)[i]? = items[i]?.map (mapReferences f) := by
  induction items generalizing i with
  | nil => simp [mapReferencesItems]
  | cons item items ih =>
    rw [mapReferencesItems]
    cases i with
    | zero => rfl
    | succ i => exact ih i

theorem child?_mapReferences (value : Value) {step : String} (h : step ≠ "$ref") :
    (mapReferences f value).child? step = (value.child? step).map (mapReferences f) := by
  cases value with
  | object members =>
    show Entries.get? (mapReferencesMembers f members) step = _
    simp only [get?_mapReferencesMembers, if_neg h]
    rfl
  | array items =>
    show (Json.indexOfStep? step).bind _ = Option.map _ ((Json.indexOfStep? step).bind _)
    cases Json.indexOfStep? step with
    | none => rfl
    | some i => exact getElem?_mapReferencesItems items i
  | _ => rfl

theorem child?_mapReferences_ref (value : Value) :
    (mapReferences f value).child? "$ref" = (value.child? "$ref").map (mapReference f) := by
  cases value with
  | object members =>
    show Entries.get? (mapReferencesMembers f members) "$ref" = _
    simp only [get?_mapReferencesMembers, if_pos]
    rfl
  | _ => rfl

/-- Where no `$ref` is on the way, the value is the same with its references changed. -/
theorem along?_mapReferences (value : Value) {path : List String} (h : "$ref" ∉ path) :
    (mapReferences f value).along? path = (value.along? path).map (mapReferences f) := by
  induction path generalizing value with
  | nil => rfl
  | cons step path ih =>
    rw [List.mem_cons, not_or] at h
    rw [Value.along?_cons, Value.along?_cons, child?_mapReferences value (Ne.symm h.1)]
    cases value.child? step with
    | none => rfl
    | some child => exact ih child h.2

/-- A reference is changed in its place. -/
theorem along?_reference {value : Value} {path : List String} {reference : String}
    (h : "$ref" ∉ path) (hreference : value.along? (path ++ ["$ref"]) = some (.string reference)) :
    (mapReferences f value).along? (path ++ ["$ref"]) = some (.string (f reference)) := by
  rw [Value.along?_append] at hreference ⊢
  rw [along?_mapReferences value h]
  obtain ⟨inner, hinner, hreference⟩ := Option.bind_eq_some_iff.1 hreference
  have hchild : inner.child? "$ref" = some (.string reference) := by
    simpa [Value.along?_cons, Value.along?] using hreference
  rw [hinner]
  show ((mapReferences f inner).child? "$ref").bind _ = _
  rw [child?_mapReferences_ref, hchild]
  rfl

/-- Changing references takes no place away. -/
theorem along?_mapReferences_isSome {value inner : Value} {path : List String}
    (h : value.along? path = some inner) : ((mapReferences f value).along? path).isSome := by
  induction path generalizing value with
  | nil => rfl
  | cons step path ih =>
    rw [Value.along?_cons] at h ⊢
    obtain ⟨child, hchild, h⟩ := Option.bind_eq_some_iff.1 h
    by_cases hstep : step = "$ref"
    · rw [hstep] at hchild ⊢
      rw [child?_mapReferences_ref, hchild]
      cases child with
      | string reference =>
        -- nothing is below a text
        cases path with
        | nil => rfl
        | cons next path => cases h
      | _ => exact Option.isSome_iff_exists.2 ⟨inner, h⟩
    · rw [child?_mapReferences value hstep, hchild]
      exact ih h

end Schemata.Bundle
