import Schemata.Proofs.Bundle.Keys
import Schemata.Proofs.Outcomes

/-!
# The references of a document

What rewriting a document does beside the rewriting: it asks for a copy of every schema that a
reference names, in order, and all of them are registered. The name of the bundled document matters
only where a reference has it. The members of an object stay under their keys.

    rewrite scope v s = .ok (v', s') → s' = s after asking for the targets of v   (rewrite_asks)
    n is no target of v → rewrite with root n = rewrite without root              (rewrite_rootName)
-/

namespace Schemata.Bundle

open Json (Value)

/-! ## Algorithm -/

mutual
/-- The references of a document that rewriting meets, in order. -/
def visited : Value → List String
  | .object members => visitedMembers members
  | .array items => visitedItems items
  | _ => []

/-- The references of a list of documents. -/
def visitedItems : List Value → List String
  | [] => []
  | item :: items => visited item ++ visitedItems items

/-- The references of members. Nothing is met below a `$ref`. -/
def visitedMembers : List (String × Value) → List String
  | [] => []
  | (key, member) :: members =>
    (if key = "$ref" then
      match member with
      | .string reference => [reference]
      | _ => []
    else visited member) ++ visitedMembers members
end

def visitedMember (key : String) (member : Value) : List String :=
  if key = "$ref" then
    match member with
    | .string reference => [reference]
    | _ => []
  else visited member

def rewriteMember (scope : Scope) (key : String) (member : Value) (state : State) :
    Except Failure (Value × State) :=
  if key = "$ref" then
    match member with
    | .string reference =>
      (rewriteReference scope reference state).map fun turned => (.string turned.1, turned.2)
    | other => .ok (other, state)
  else rewrite scope member state

/-- Whether a reference with this target leads to a copy. -/
def isForeign (rootName target : String) : Bool := !target.isEmpty && target ≠ rootName

/-- The schemas that references name, the bundled document aside. -/
def foreignTargets (rootName : String) (references : List String) : List String :=
  (references.map (Text.before '#')).filter (isForeign rootName)

/-- The schemas that the references of a document name. -/
def targets (rootName : String) (document : Value) : List String :=
  foreignTargets rootName (visited document)

/-- Asks for a copy of a schema; a name enters the queue when it gets its key. -/
def State.ask (state : State) (target : String) : State :=
  ⟨(state.keys.keyFor target).2,
    if state.keys.hasName target then state.queue else state.queue ++ [target]⟩

/-- One state follows another when references are met: copies of their targets are asked for, and
all of these are registered. -/
structure Asks (scope : Scope) (references : List String) (before after : State) : Prop where
  state : after = (foreignTargets scope.rootName references).foldl State.ask before
  registered : ∀ target ∈ foreignTargets scope.rootName references, target ∈ scope.resolver.names

/-! ## Lemmas -/

theorem rewriteMembers_cons (scope : Scope) (key : String) (member : Value)
    (members : List (String × Value)) (state : State) :
    rewriteMembers scope ((key, member) :: members) state =
      (rewriteMember scope key member state).bind fun first =>
        (rewriteMembers scope members first.2).bind fun rest =>
          .ok ((key, first.1) :: rest.1, rest.2) := by
  conv => lhs; unfold rewriteMembers
  unfold rewriteMember
  split
  · cases member with
    | string reference =>
      dsimp only
      cases rewriteReference scope reference state <;> rfl
    | _ => rfl
  · rfl

theorem visitedMembers_cons (key : String) (member : Value) (members : List (String × Value)) :
    visitedMembers ((key, member) :: members) =
      visitedMember key member ++ visitedMembers members := by
  conv => lhs; unfold visitedMembers
  rfl

theorem mem_visitedMembers {members : List (String × Value)} {reference : String} :
    reference ∈ visitedMembers members ↔
      ∃ entry ∈ members, reference ∈ visitedMember entry.1 entry.2 := by
  induction members with
  | nil => simp [visitedMembers]
  | cons entry members ih =>
    rw [visitedMembers_cons, List.mem_append, ih]
    simp only [List.mem_cons, exists_eq_or_imp]

theorem mem_visitedItems {items : List Value} {reference : String} :
    reference ∈ visitedItems items ↔ ∃ item ∈ items, reference ∈ visited item := by
  induction items with
  | nil => simp [visitedItems]
  | cons item items ih => simp [visitedItems, ih]

theorem isForeign_iff {rootName target : String} :
    isForeign rootName target = true ↔ target.isEmpty = false ∧ target ≠ rootName := by
  simp [isForeign]

theorem foreignTargets_append (rootName : String) (first second : List String) :
    foreignTargets rootName (first ++ second) =
      foreignTargets rootName first ++ foreignTargets rootName second := by
  simp [foreignTargets]

theorem rootName_not_mem_targets (rootName : String) (document : Value) :
    rootName ∉ targets rootName document := by
  intro h
  have hforeign := (List.mem_filter.1 h).2
  exact (isForeign_iff.1 hforeign).2 rfl

/-- Every target counts that is not left out as the bundled document. -/
theorem targets_subset (rootName : String) (document : Value) :
    targets rootName document ⊆ targets "" document := by
  intro target h
  obtain ⟨hmem, hforeign⟩ := List.mem_filter.1 h
  obtain ⟨hempty, -⟩ := isForeign_iff.1 hforeign
  refine List.mem_filter.2 ⟨hmem, isForeign_iff.2 ⟨hempty, ?_⟩⟩
  rintro rfl
  cases hempty

namespace Asks

variable {scope : Scope} {before after : State}

theorem nil (scope : Scope) (state : State) : Asks scope [] state state :=
  ⟨rfl, fun _ h => nomatch h⟩

/-- A reference within the document asks for nothing. -/
theorem of_local {reference : String}
    (h : isForeign scope.rootName (Text.before '#' reference) = false) (state : State) :
    Asks scope [reference] state state := by
  have htargets : foreignTargets scope.rootName [reference] = [] := by
    simp [foreignTargets, h]
  exact ⟨by rw [htargets]; rfl, by rw [htargets]; simp⟩

/-- Any other reference asks for a copy of its target. -/
theorem of_foreign {reference : String}
    (h : isForeign scope.rootName (Text.before '#' reference) = true)
    (hregistered : Text.before '#' reference ∈ scope.resolver.names) (state : State) :
    Asks scope [reference] state (state.ask (Text.before '#' reference)) := by
  have htargets : foreignTargets scope.rootName [reference] = [Text.before '#' reference] := by
    simp [foreignTargets, h]
  refine ⟨by rw [htargets]; rfl, fun target hmem => ?_⟩
  rw [htargets] at hmem
  rw [List.mem_singleton.1 hmem]
  exact hregistered

theorem append {first second : List String} {middle : State} (h : Asks scope first before middle)
    (h' : Asks scope second middle after) : Asks scope (first ++ second) before after := by
  refine ⟨?_, fun target hmem => ?_⟩
  · rw [foreignTargets_append, List.foldl_append, ← h.state]
    exact h'.state
  · rw [foreignTargets_append, List.mem_append] at hmem
    exact hmem.elim (h.registered target) (h'.registered target)

end Asks

theorem rewriteReference_asks {scope : Scope} {reference : String} {state : State}
    {result : String × State} (h : rewriteReference scope reference state = .ok result) :
    Asks scope [reference] state result.2 := by
  unfold rewriteReference at h
  dsimp only at h
  split at h
  · next hempty =>
    have hlocal : Asks scope [reference] state state :=
      .of_local (by simp [isForeign, hempty]) state
    split at h
    · cases h; exact hlocal
    · cases h; exact hlocal
  · next hempty =>
    split at h
    · next hroot =>
      cases h
      exact .of_local (by simp [isForeign, hroot]) state
    · next hroot =>
      split at h
      · cases h
      · next hregistered =>
        cases h
        exact .of_foreign (isForeign_iff.2 ⟨by simpa using hempty, hroot⟩)
          (List.contains_iff_mem.1 (Decidable.not_not.1 hregistered)) state

mutual
/-- Rewriting a document asks for copies of its targets, and for nothing else. -/
theorem rewrite_asks {scope : Scope} : ∀ {value : Value} {state : State} {result : Value × State},
    rewrite scope value state = .ok result → Asks scope (visited value) state result.2
  | .object members, state, result, h => by
    obtain ⟨rewritten, hmembers, h⟩ := bind_eq_ok_iff.1 h
    cases h
    exact rewriteMembers_asks hmembers
  | .array items, state, result, h => by
    obtain ⟨rewritten, hitems, h⟩ := bind_eq_ok_iff.1 h
    cases h
    exact rewriteItems_asks hitems
  | .null, state, result, h => by cases h; exact .nil scope state
  | .bool _, state, result, h => by cases h; exact .nil scope state
  | .number _, state, result, h => by cases h; exact .nil scope state
  | .string _, state, result, h => by cases h; exact .nil scope state

theorem rewriteItems_asks {scope : Scope} :
    ∀ {items : List Value} {state : State} {result : List Value × State},
      rewriteItems scope items state = .ok result →
        Asks scope (visitedItems items) state result.2
  | [], state, result, h => by cases h; exact .nil scope state
  | item :: items, state, result, h => by
    obtain ⟨first, hfirst, h⟩ := bind_eq_ok_iff.1 h
    obtain ⟨rest, hrest, h⟩ := bind_eq_ok_iff.1 h
    cases h
    have hitems := rewriteItems_asks hrest
    exact (rewrite_asks hfirst).append hitems

theorem rewriteMembers_asks {scope : Scope} :
    ∀ {members : List (String × Value)} {state : State} {result : List (String × Value) × State},
      rewriteMembers scope members state = .ok result →
        Asks scope (visitedMembers members) state result.2
  | [], state, result, h => by cases h; exact .nil scope state
  | (key, member) :: members, state, result, h => by
    rw [rewriteMembers_cons] at h
    obtain ⟨first, hfirst, h⟩ := bind_eq_ok_iff.1 h
    obtain ⟨rest, hrest, h⟩ := bind_eq_ok_iff.1 h
    cases h
    have hmembers := rewriteMembers_asks hrest
    refine Asks.append ?_ hmembers
    unfold rewriteMember at hfirst
    split at hfirst
    · next hkey =>
      rw [if_pos hkey]
      cases member with
      | string reference =>
        dsimp only at hfirst
        cases hturned : rewriteReference scope reference state with
        | error failure => rw [hturned] at hfirst; cases hfirst
        | ok turned =>
          rw [hturned] at hfirst
          cases hfirst
          exact rewriteReference_asks hturned
      | _ => cases hfirst; exact .nil scope state
    · next hkey =>
      rw [if_neg hkey]
      exact rewrite_asks hfirst
end

/-! ## The name of the bundled document -/

variable {rootName : String} {key : Option String} {resolver : Resolver}

theorem rewriteReference_rootName {reference : String}
    (h : rootName ∉ foreignTargets "" [reference]) (state : State) :
    rewriteReference ⟨rootName, key, resolver⟩ reference state =
      rewriteReference ⟨"", key, resolver⟩ reference state := by
  unfold rewriteReference
  dsimp only
  cases hempty : (Text.before '#' reference).isEmpty with
  | true => rfl
  | false =>
    have hroot : Text.before '#' reference ≠ "" := by rintro heq; rw [heq] at hempty; cases hempty
    have hother : Text.before '#' reference ≠ rootName := by
      rintro rfl
      exact h (List.mem_filter.2 ⟨List.mem_singleton.2 rfl, isForeign_iff.2 ⟨hempty, hroot⟩⟩)
    simp [hroot, hother]

theorem rewriteMember_rootName {name : String} {member : Value}
    (hrewrite : ∀ state, rootName ∉ targets "" member →
      rewrite ⟨rootName, key, resolver⟩ member state = rewrite ⟨"", key, resolver⟩ member state)
    (h : rootName ∉ foreignTargets "" (visitedMembers [(name, member)])) (state : State) :
    rewriteMember ⟨rootName, key, resolver⟩ name member state =
      rewriteMember ⟨"", key, resolver⟩ name member state := by
  unfold visitedMembers visitedMembers at h
  rw [List.append_nil] at h
  unfold rewriteMember
  split
  · next hname =>
    rw [if_pos hname] at h
    cases member with
    | string reference => dsimp only at h ⊢; rw [rewriteReference_rootName h]
    | _ => rfl
  · next hname =>
    rw [if_neg hname] at h
    exact hrewrite state h

mutual
/-- Without a reference to it, the bundled document may as well have no name. -/
theorem rewrite_rootName : ∀ {value : Value} (state : State), rootName ∉ targets "" value →
    rewrite ⟨rootName, key, resolver⟩ value state = rewrite ⟨"", key, resolver⟩ value state
  | .object members, state, h => by
    unfold rewrite
    rw [rewriteMembers_rootName state h]
  | .array items, state, h => by
    unfold rewrite
    rw [rewriteItems_rootName state h]
  | .null, _, _ => rfl
  | .bool _, _, _ => rfl
  | .number _, _, _ => rfl
  | .string _, _, _ => rfl

theorem rewriteItems_rootName : ∀ {items : List Value} (state : State),
    rootName ∉ foreignTargets "" (visitedItems items) →
      rewriteItems ⟨rootName, key, resolver⟩ items state =
        rewriteItems ⟨"", key, resolver⟩ items state
  | [], _, _ => rfl
  | item :: items, state, h => by
    unfold visitedItems at h
    rw [foreignTargets_append, List.mem_append, not_or] at h
    unfold rewriteItems
    rw [rewrite_rootName state h.1]
    refine congrArg _ (funext fun (first, middle) => ?_)
    dsimp only
    rw [rewriteItems_rootName middle h.2]

theorem rewriteMembers_rootName : ∀ {members : List (String × Value)} (state : State),
    rootName ∉ foreignTargets "" (visitedMembers members) →
      rewriteMembers ⟨rootName, key, resolver⟩ members state =
        rewriteMembers ⟨"", key, resolver⟩ members state
  | [], _, _ => rfl
  | (name, member) :: members, state, h => by
    have hsplit : visitedMembers ((name, member) :: members) =
        visitedMembers [(name, member)] ++ visitedMembers members := by
      simp [visitedMembers]
    rw [hsplit, foreignTargets_append, List.mem_append, not_or] at h
    rw [rewriteMembers_cons, rewriteMembers_cons,
      rewriteMember_rootName (fun state hmember => rewrite_rootName state hmember) h.1]
    refine congrArg _ (funext fun first => ?_)
    rw [rewriteMembers_rootName first.2 h.2]
end

/-! ## Members -/

theorem rewrite_object {scope : Scope} {members : List (String × Value)} {state : State}
    {result : Value × State} (h : rewrite scope (.object members) state = .ok result) :
    ∃ rewritten, rewriteMembers scope members state = .ok rewritten ∧
      result = (.object rewritten.1, rewritten.2) := by
  obtain ⟨rewritten, hmembers, h⟩ := bind_eq_ok_iff.1 h
  cases h
  exact ⟨rewritten, hmembers, rfl⟩

theorem keys_rewriteMembers {scope : Scope} {members : List (String × Value)} {state : State}
    {result : List (String × Value) × State}
    (h : rewriteMembers scope members state = .ok result) :
    Entries.keys result.1 = Entries.keys members := by
  induction members generalizing state result with
  | nil => cases h; rfl
  | cons member members ih =>
    obtain ⟨name, content⟩ := member
    rw [rewriteMembers_cons] at h
    obtain ⟨first, -, h⟩ := bind_eq_ok_iff.1 h
    obtain ⟨rest, hrest, h⟩ := bind_eq_ok_iff.1 h
    cases h
    show name :: Entries.keys rest.1 = name :: Entries.keys members
    rw [ih hrest]

/-- A member is rewritten in its place. -/
theorem get?_rewriteMembers {scope : Scope} {members : List (String × Value)} {state : State}
    {result : List (String × Value) × State} (h : rewriteMembers scope members state = .ok result)
    {name : String} {member : Value} (hget : Entries.get? members name = some member) :
    ∃ before rewritten, rewriteMember scope name member before = .ok rewritten ∧
      Entries.get? result.1 name = some rewritten.1 := by
  induction members generalizing state result with
  | nil => cases hget
  | cons head members ih =>
    obtain ⟨other, content⟩ := head
    rw [rewriteMembers_cons] at h
    obtain ⟨first, hfirst, h⟩ := bind_eq_ok_iff.1 h
    obtain ⟨rest, hrest, h⟩ := bind_eq_ok_iff.1 h
    cases h
    rw [Entries.get?_cons] at hget ⊢
    split at hget
    · next heq =>
      cases hget
      rw [if_pos heq, ← heq]
      exact ⟨state, first, hfirst, rfl⟩
    · next hne =>
      rw [if_neg hne]
      exact ih hrest hget

end Schemata.Bundle
