import Schemata.Proofs.Bundle.Pointees
import Schemata.Composition

/-!
# How bundling ends

Bundling as a loop that goes on until its queue is empty, without a bound on its rounds. It comes to
an end for every document, because a name enters the queue only when it gets its key, and only
registered names get keys; it ends as the bounded loop does. It ends well if and only if all schemas
that references reach can be composed. The result is the document without its identity, with its
references turned, and with one definition more for each schema that is reached.

    the loop ends with an outcome ↔ the outcome is that of the bundle            (bundling_iff)
    bundle fails → it fails at a schema that is reached                          (bundle_error)
    bundle = .ok out for some out ↔ all that is reached can be had              (bundle_ok_iff)
    bundle = .ok out → the definitions and members of out                    (isBundle_of_bundle)
    all of this, for the schemas of a catalog                            (bundle_closes_catalog)
-/

namespace Schemata.Bundle

open Json (Value)

/-! ## Algorithm -/

/-- The loop over the schemas that are to be copied, by the outcome that it ends with. A round takes
the first name out of the queue and rewrites the document of this name, which may add more. -/
inductive Copying (rootName : String) (resolver : Resolver) :
    State → Except Failure (List (String × Value)) → Prop
  | finished {keys : DefKeys} : Copying rootName resolver ⟨keys, []⟩ (.ok [])
  | unresolved {keys : DefKeys} {name : String} {queue : List String} {failure : Failure}
      (hresolve : resolver.resolve name = .error failure) :
      Copying rootName resolver ⟨keys, name :: queue⟩ (.error failure)
  | unwritten {keys : DefKeys} {name : String} {queue : List String} {document : Value}
      {failure : Failure} (hresolve : resolver.resolve name = .ok document)
      (hrewrite : rewrite ⟨rootName, some (keys.keyFor name).1, resolver⟩ (copySource document)
        ⟨(keys.keyFor name).2, queue⟩ = .error failure) :
      Copying rootName resolver ⟨keys, name :: queue⟩ (.error failure)
  | copied {keys : DefKeys} {name : String} {queue : List String} {document : Value}
      {copy : Value × State} {outcome : Except Failure (List (String × Value))}
      (hresolve : resolver.resolve name = .ok document)
      (hrewrite : rewrite ⟨rootName, some (keys.keyFor name).1, resolver⟩ (copySource document)
        ⟨(keys.keyFor name).2, queue⟩ = .ok copy)
      (hrest : Copying rootName resolver copy.2 outcome) :
      Copying rootName resolver ⟨keys, name :: queue⟩
        (outcome.map fun copies => ((keys.keyFor name).1, copy.1) :: copies)

/-- Bundling by the outcome that it ends with: the document is rewritten, and then the loop runs. -/
inductive Bundling (rootName : String) (document : Value) (resolver : Resolver) :
    Except Failure Value → Prop
  | unwritten {failure : Failure}
      (hrewrite : rewrite ⟨rootName, none, resolver⟩ (bundleSource document)
        ⟨DefKeys.start (existingKeys (bundleSource document)), []⟩ = .error failure) :
      Bundling rootName document resolver (.error failure)
  | copied {root : Value × State} {outcome : Except Failure (List (String × Value))}
      (hrewrite : rewrite ⟨rootName, none, resolver⟩ (bundleSource document)
        ⟨DefKeys.start (existingKeys (bundleSource document)), []⟩ = .ok root)
      (hcopying : Copying rootName resolver root.2 outcome) :
      Bundling rootName document resolver (outcome.map (addCopies root.1))

/-- What lets bundling fail at a name: it is not registered, or its document cannot be had. -/
def FailsAt (resolver : Resolver) (name : String) (failure : Failure) : Prop :=
  (name ∉ resolver.names ∧ failure = .schemaNotFound name) ∨ resolver.resolve name = .error failure

def definition? (document : Value) (key : String) : Option Value :=
  (document.member? "$defs").bind fun defs => defs.member? key

def turnMember (f : String → String) (name : String) (member : Value) : Value :=
  if name = "$ref" then mapReference f member else mapReferences f member

/-- The schemas that a document needs: those that its references reach. -/
abbrev Needs (rootName : String) (document : Value) (resolver : Resolver) (name : String) : Prop :=
  Reached rootName resolver (targets rootName (bundleSource document)) name

/-- What the bundle of a document has, by the keys of names. Each schema that is reached has a
definition of its own, under a key that is new. Everything else is as it was, with turned
references: the other definitions, and the other members, of which only the identity is gone. -/
structure IsBundle (rootName : String) (document : Value) (resolver : Resolver)
    (key : String → String) (out : Value) : Prop where
  object : ∃ members, out = .object members
  counted : ∃ names : List String, names.Nodup ∧
    (∀ name, name ∈ names ↔ Needs rootName document resolver name) ∧
    (existingKeys out).length = (existingKeys document).length + names.length
  distinct : ∀ name other, Needs rootName document resolver name →
    Needs rootName document resolver other → key name = key other → name = other
  fresh : ∀ name, Needs rootName document resolver name → key name ∉ existingKeys document
  copies : ∀ name, Needs rootName document resolver name →
    ∃ source, resolver.resolve name = .ok source ∧ definition? out (key name) =
      some (mapReferences (turn rootName key (some (key name))) (copySource source))
  definitions : ∀ other, (∀ name, Needs rootName document resolver name → key name ≠ other) →
    definition? out other =
      (definition? document other).map (turnMember (turn rootName key none) other)
  members : ∀ name, name ≠ "$defs" → out.member? name =
    if name = "$id" then none
    else (document.member? name).map (turnMember (turn rootName key none) name)
  unextended : (∀ name, ¬ Needs rootName document resolver name) →
    out.member? "$defs" =
      (document.member? "$defs").map (turnMember (turn rootName key none) "$defs")

/-! ## Failing to rewrite -/

/-- What a rewriting that fails has met: a target that is not registered. -/
def Strays (scope : Scope) (references : List String) (failure : Failure) : Prop :=
  ∃ target ∈ foreignTargets scope.rootName references,
    target ∉ scope.resolver.names ∧ failure = .schemaNotFound target

theorem Strays.mono {scope : Scope} {first second : List String} {failure : Failure}
    (h : Strays scope first failure)
    (hsub : foreignTargets scope.rootName first ⊆ foreignTargets scope.rootName second) :
    Strays scope second failure := by
  obtain ⟨target, hmem, hstray⟩ := h
  exact ⟨target, hsub hmem, hstray⟩

theorem Strays.append_left {scope : Scope} {first : List String} {failure : Failure}
    (h : Strays scope first failure) (second : List String) :
    Strays scope (first ++ second) failure :=
  h.mono (foreignTargets_append scope.rootName first second ▸ List.subset_append_left _ _)

theorem Strays.append_right {scope : Scope} {second : List String} {failure : Failure}
    (h : Strays scope second failure) (first : List String) :
    Strays scope (first ++ second) failure :=
  h.mono (foreignTargets_append scope.rootName first second ▸ List.subset_append_right _ _)

theorem rewriteReference_error {scope : Scope} {reference : String} {state : State}
    {failure : Failure} (h : rewriteReference scope reference state = .error failure) :
    Strays scope [reference] failure := by
  unfold rewriteReference at h
  dsimp only at h
  split at h
  · split at h <;> cases h
  · next hempty =>
    split at h
    · cases h
    · next hroot =>
      split at h
      · next hstray =>
        cases h
        have hforeign : isForeign scope.rootName (Text.before '#' reference) = true :=
          isForeign_iff.2 ⟨by simpa using hempty, hroot⟩
        refine ⟨Text.before '#' reference, List.mem_filter.2 ⟨List.mem_singleton.2 rfl, hforeign⟩,
          fun hmem => hstray (List.contains_iff_mem.2 hmem), rfl⟩
      · cases h

theorem rewriteMember_error {scope : Scope} {name : String} {member : Value} {state : State}
    {failure : Failure} (hrewrite : rewrite scope member state = .error failure →
      Strays scope (visited member) failure)
    (h : rewriteMember scope name member state = .error failure) :
    Strays scope (visitedMember name member) failure := by
  unfold rewriteMember at h
  unfold visitedMember
  split at h
  · next hname =>
    rw [if_pos hname]
    cases member with
    | string reference => exact rewriteReference_error (map_eq_error_iff.1 h)
    | _ => cases h
  · next hname =>
    rw [if_neg hname]
    exact hrewrite h

mutual
/-- Rewriting a document fails only at a target that is not registered. -/
theorem rewrite_error {scope : Scope} : ∀ {value : Value} {state : State} {failure : Failure},
    rewrite scope value state = .error failure → Strays scope (visited value) failure
  | .object members, state, failure, h => by
    rcases bind_eq_error_iff.1 h with hmembers | ⟨rewritten, -, h⟩
    · exact rewriteMembers_error hmembers
    · cases h
  | .array items, state, failure, h => by
    rcases bind_eq_error_iff.1 h with hitems | ⟨rewritten, -, h⟩
    · exact rewriteItems_error hitems
    · cases h
  | .null, state, failure, h => by cases h
  | .bool _, state, failure, h => by cases h
  | .number _, state, failure, h => by cases h
  | .string _, state, failure, h => by cases h

theorem rewriteItems_error {scope : Scope} :
    ∀ {items : List Value} {state : State} {failure : Failure},
      rewriteItems scope items state = .error failure → Strays scope (visitedItems items) failure
  | [], state, failure, h => by cases h
  | item :: items, state, failure, h => by
    rcases bind_eq_error_iff.1 h with hitem | ⟨first, -, h⟩
    · exact (rewrite_error hitem).append_left _
    · rcases bind_eq_error_iff.1 h with hitems | ⟨rest, -, h⟩
      · exact (rewriteItems_error hitems).append_right _
      · cases h

theorem rewriteMembers_error {scope : Scope} :
    ∀ {members : List (String × Value)} {state : State} {failure : Failure},
      rewriteMembers scope members state = .error failure →
        Strays scope (visitedMembers members) failure
  | [], state, failure, h => by cases h
  | (name, member) :: members, state, failure, h => by
    rw [rewriteMembers_cons] at h
    rw [visitedMembers_cons]
    rcases bind_eq_error_iff.1 h with hmember | ⟨first, -, h⟩
    · exact (rewriteMember_error (fun h => rewrite_error h) hmember).append_left _
    · rcases bind_eq_error_iff.1 h with hmembers | ⟨rest, -, h⟩
      · exact (rewriteMembers_error hmembers).append_right _
      · cases h
end

/-! ## Running -/

variable {rootName : String} {resolver : Resolver} {document : Value}

/-- While a name waits, the bound lets the loop go on. -/
theorem Underway.fuel_succ {initial done queue : List String} {keys : DefKeys} {name : String}
    {fuel : Nat} (h : Underway resolver initial done ⟨keys, name :: queue⟩)
    (hfuel : resolver.names.length < fuel + done.length) : ∃ rest, fuel = rest + 1 := by
  have hlength := h.length_le
  rw [List.length_cons] at hlength
  exact ⟨fuel - 1, by omega⟩

/-- The loop comes to an end, and the bounded one ends as it does. -/
theorem copyQueue_copying {initial done : List String} {fuel : Nat} {state : State}
    (h : Underway resolver initial done state)
    (hfuel : resolver.names.length < fuel + done.length) :
    Copying rootName resolver state (copyQueue rootName resolver fuel state) := by
  induction fuel generalizing state done with
  | zero =>
    have hlength := h.length_le
    omega
  | succ fuel ih =>
    obtain ⟨keys, queue⟩ := state
    cases queue with
    | nil => exact .finished
    | cons name queue =>
      obtain ⟨key, -, hkey⟩ := DefKeys.keyFor_of_mem h.mem_names
      rw [copyQueue_cons]
      cases hresolve : resolver.resolve name with
      | error failure => exact .unresolved hresolve
      | ok document =>
        simp only [Except.bind]
        cases hrewrite : rewrite ⟨rootName, some (keys.keyFor name).1, resolver⟩
            (copySource document) ⟨(keys.keyFor name).2, queue⟩ with
        | error failure => exact .unwritten hresolve hrewrite
        | ok copy =>
          have hround : Underway resolver initial (done ++ [name]) copy.2 := by
            rw [hkey] at hrewrite
            exact h.round hrewrite
          have hrest := ih hround (by rw [List.length_append, List.length_singleton]; omega)
          have hcopied := Copying.copied hresolve hrewrite hrest
          dsimp only
          cases hcopies : copyQueue rootName resolver fuel copy.2 <;> rw [hcopies] at hcopied <;>
            exact hcopied

/-- The loop has no other outcome than the bounded one. -/
theorem Copying.eq_copyQueue {state : State} {outcome : Except Failure (List (String × Value))}
    (h : Copying rootName resolver state outcome) {initial done : List String} {fuel : Nat}
    (hunderway : Underway resolver initial done state)
    (hfuel : resolver.names.length < fuel + done.length) :
    outcome = copyQueue rootName resolver fuel state := by
  induction h generalizing fuel done with
  | finished => cases fuel <;> rfl
  | @unresolved keys name queue failure hresolve =>
    obtain ⟨fuel, rfl⟩ := hunderway.fuel_succ hfuel
    rw [copyQueue_cons, hresolve]
    rfl
  | @unwritten keys name queue document failure hresolve hrewrite =>
    obtain ⟨fuel, rfl⟩ := hunderway.fuel_succ hfuel
    rw [copyQueue_cons, hresolve]
    simp only [Except.bind]
    rw [hrewrite]
  | @copied keys name queue document copy outcome hresolve hrewrite _ ih =>
    obtain ⟨fuel, rfl⟩ := hunderway.fuel_succ hfuel
    have hround : Underway resolver initial (done ++ [name]) copy.2 := by
      obtain ⟨key, -, hkey⟩ := DefKeys.keyFor_of_mem hunderway.mem_names
      rw [hkey] at hrewrite
      exact hunderway.round hrewrite
    have hrest : outcome = copyQueue rootName resolver fuel copy.2 :=
      ih hround (by rw [List.length_append, List.length_singleton]; omega)
    rw [copyQueue_cons, hresolve]
    simp only [Except.bind]
    rw [hrewrite, hrest]
    dsimp only
    cases copyQueue rootName resolver fuel copy.2 <;> rfl

/-- Bundling comes to an end, and its only outcome is the bundle, or the failure to have one. -/
theorem bundling_iff {outcome : Except Failure Value} :
    Bundling rootName document resolver outcome ↔ outcome = bundle rootName document resolver := by
  have hbundle : bundle rootName document resolver =
      (rewrite ⟨rootName, none, resolver⟩ (bundleSource document)
        ⟨DefKeys.start (existingKeys (bundleSource document)), []⟩).bind fun root =>
          (copyQueue rootName resolver (resolver.names.length + 1) root.2).map
            (addCopies root.1) := by
    rfl
  rw [hbundle]
  constructor
  · intro h
    cases h with
    | unwritten hrewrite => rw [hrewrite]; rfl
    | copied hrewrite hcopying =>
      rw [hrewrite, hcopying.eq_copyQueue (underway_start hrewrite) (Nat.lt_succ_self _)]
      rfl
  · rintro rfl
    cases hrewrite : rewrite ⟨rootName, none, resolver⟩ (bundleSource document)
        ⟨DefKeys.start (existingKeys (bundleSource document)), []⟩ with
    | error failure => exact .unwritten hrewrite
    | ok root =>
      exact .copied hrewrite (copyQueue_copying (underway_start hrewrite) (Nat.lt_succ_self _))

/-! ## Failing -/

/-- Where the loop fails, it fails at a schema that is reached. -/
theorem Copying.error {state : State} {outcome : Except Failure (List (String × Value))}
    (h : Copying rootName resolver state outcome) {failure : Failure}
    (hfails : outcome = .error failure) :
    ∃ name, Reached rootName resolver state.queue name ∧ FailsAt resolver name failure := by
  induction h with
  | finished => cases hfails
  | unresolved hresolve =>
    cases hfails
    exact ⟨_, .asked List.mem_cons_self, Or.inr hresolve⟩
  | unwritten hresolve hrewrite =>
    cases hfails
    obtain ⟨target, htarget, hstray⟩ := rewrite_error hrewrite
    exact ⟨target, .copied (.asked List.mem_cons_self) hresolve htarget, Or.inl hstray⟩
  | @copied keys name queue document copy outcome hresolve hrewrite hrest ih =>
    obtain ⟨other, hother, hat⟩ := ih (map_eq_error_iff.1 hfails)
    refine ⟨other, hother.trans fun next hnext => ?_, hat⟩
    rcases (rewrite_asks hrewrite).grown.queue next hnext with hold | hasked
    · exact .asked (List.mem_cons_of_mem name hold)
    · exact .copied (.asked List.mem_cons_self) hresolve hasked

/-- A bundle fails at a schema that is reached. -/
theorem bundle_error {failure : Failure} (h : bundle rootName document resolver = .error failure) :
    ∃ name, Needs rootName document resolver name ∧ FailsAt resolver name failure := by
  have hends : Bundling rootName document resolver (bundle rootName document resolver) :=
    bundling_iff.2 rfl
  generalize bundle rootName document resolver = outcome at h hends
  cases hends with
  | unwritten hrewrite =>
    cases h
    obtain ⟨target, htarget, hstray⟩ := rewrite_error hrewrite
    exact ⟨target, .asked htarget, Or.inl hstray⟩
  | copied hrewrite hcopying =>
    obtain ⟨name, hname, hat⟩ := hcopying.error (map_eq_error_iff.1 h)
    refine ⟨name, hname.trans fun next hnext => ?_, hat⟩
    rcases (rewrite_asks hrewrite).grown.queue next hnext with hold | hasked
    · cases hold
    · exact .asked hasked

/-- A document can be bundled if and only if every schema that it reaches is registered and has a
document. -/
theorem bundle_ok_iff : (∃ out, bundle rootName document resolver = .ok out) ↔
    ∀ name, Needs rootName document resolver name →
      name ∈ resolver.names ∧ ∃ source, resolver.resolve name = .ok source := by
  constructor
  · rintro ⟨out, hout⟩ name hname
    obtain ⟨root, copies, names, keys, hroot, hcopied, hreached, -⟩ := bundle_ok hout
    have hmem := (hreached name).2 hname
    obtain ⟨source, hresolve, -⟩ := hcopied.closed name hmem
    exact ⟨hcopied.registered hmem, source, hresolve⟩
  · intro hall
    cases hbundle : bundle rootName document resolver with
    | ok out => exact ⟨out, rfl⟩
    | error failure =>
      obtain ⟨name, hname, hat⟩ := bundle_error hbundle
      obtain ⟨hregistered, source, hresolve⟩ := hall name hname
      rcases hat with ⟨hstray, -⟩ | hfails
      · exact absurd hregistered hstray
      · rw [hresolve] at hfails
        cases hfails

/-! ## Members and definitions -/

theorem member?_mapReferences (f : String → String) (value : Value) (name : String) :
    (mapReferences f value).member? name = (value.member? name).map (turnMember f name) := by
  cases value with
  | object members => exact get?_mapReferencesMembers members name
  | _ => rfl

theorem member?_bundleSource (document : Value) (name : String) :
    (bundleSource document).member? name =
      if name = "$id" then none else document.member? name := by
  cases document with
  | object members => exact Entries.get?_without members "$id" name
  | _ => exact (ite_self _).symm

/-- Definitions are where they were, with their references turned. -/
theorem definition?_mapReferences (f : String → String) (value : Value) (key : String) :
    definition? (mapReferences f value) key = (definition? value key).map (turnMember f key) := by
  unfold definition?
  rw [member?_mapReferences]
  cases value.member? "$defs" with
  | none => rfl
  | some defs =>
    show (turnMember f "$defs" defs).member? key = (defs.member? key).map (turnMember f key)
    rw [turnMember, if_neg (by decide), member?_mapReferences]

theorem definition?_bundleSource (document : Value) (key : String) :
    definition? (bundleSource document) key = definition? document key := by
  unfold definition?
  rw [member?_bundleSource, if_neg (by decide)]

variable {copies : List (String × Value)}

theorem member?_addCopies_of_ne (document : Value) {name : String} (h : name ≠ "$defs") :
    (addCopies document copies).member? name = document.member? name := by
  cases document with
  | object members =>
    unfold addCopies
    dsimp only
    split
    · rfl
    · split
      · exact Entries.get?_put_of_ne members _ (Ne.symm h)
      · rfl
  | _ => rfl

/-- The definitions of a document with copies, all at once. -/
theorem TakesCopies.definition?_addCopies (htakes : TakesCopies document)
    (copies : List (String × Value)) :
    ∃ defs, (∀ key, definition? document key = Entries.get? defs key) ∧
      ∀ key, definition? (addCopies document copies) key =
        Entries.get? (withCopies defs copies) key := by
  obtain ⟨members, rfl, hdefs⟩ := htakes
  obtain ⟨defs, hget, hown⟩ : ∃ defs,
      (Entries.get? members "$defs").getD (.object []) = .object defs ∧
      ∀ key, definition? (.object members) key = Entries.get? defs key := by
    unfold definition? Value.member?
    dsimp only
    cases hget : Entries.get? members "$defs" with
    | none => exact ⟨[], rfl, fun _ => rfl⟩
    | some defs =>
      obtain ⟨entries, rfl⟩ := hdefs defs hget
      exact ⟨entries, rfl, fun _ => rfl⟩
  refine ⟨defs, hown, fun key => ?_⟩
  cases copies with
  | nil => exact hown key
  | cons copy copies =>
    unfold addCopies definition?
    dsimp only [List.isEmpty_cons]
    rw [if_neg Bool.false_ne_true, hget]
    dsimp only [Value.member?]
    rw [Entries.get?_put_self]
    rfl

theorem addCopies_object (members : List (String × Value)) :
    ∃ members', addCopies (.object members) copies = .object members' := by
  unfold addCopies
  dsimp only
  split
  · exact ⟨members, rfl⟩
  · split <;> exact ⟨_, rfl⟩

/-! ## What a bundle is -/

section Copied

variable {initial done names : List String} {state : State} {keys : DefKeys}

/-- A schema that is copied has a copy under its key. -/
theorem Copied.exists_copy (h : Copied rootName resolver initial done state copies names keys)
    {name : String} (hname : name ∈ names) :
    ∃ source, resolver.resolve name = .ok source ∧ (keys.keyOf name, mapReferences
      (turn rootName keys.keyOf (some (keys.keyOf name))) (copySource source)) ∈ copies := by
  obtain ⟨source, hresolve, -⟩ := h.closed name hname
  exact ⟨source, hresolve, h.copy_mem hname hresolve⟩

theorem Copied.keyOf_injective (h : Copied rootName resolver initial done state copies names keys)
    {name other : String} (hname : name ∈ names) (hother : other ∈ names)
    (heq : keys.keyOf name = keys.keyOf other) : name = other := by
  obtain ⟨key, hkey⟩ := h.lookup_of_mem hname
  obtain ⟨key', hkey'⟩ := h.lookup_of_mem hother
  rw [DefKeys.keyOf_of_lookup hkey, DefKeys.keyOf_of_lookup hkey'] at heq
  subst heq
  exact h.distinct.injective hkey hkey'

theorem Copied.key_mem (h : Copied rootName resolver initial done state copies names keys)
    {key : String} (hmem : key ∈ copies.map (·.1)) : ∃ name ∈ names, keys.keyOf name = key := by
  obtain ⟨copy, hcopy, rfl⟩ := List.mem_map.1 hmem
  have hkeyed : some copy.1 ∈ names.map fun name => keys.byName.lookup name := by
    rw [← h.keyed]
    exact List.mem_map_of_mem hcopy
  obtain ⟨name, hname, hlookup⟩ := List.mem_map.1 hkeyed
  exact ⟨name, hname, DefKeys.keyOf_of_lookup hlookup⟩

end Copied

/-- The bundle of a document has the definitions and the members that it is to have. -/
theorem isBundle_of_bundle (htakes : TakesCopies document) {out : Value}
    (h : bundle rootName document resolver = .ok out) :
    ∃ key, IsBundle rootName document resolver key out := by
  have hcounted := definitions_bundle htakes h
  obtain ⟨root, copies, names, keys, hroot, hcopied, hreached, rfl⟩ := bundle_ok h
  have hturned : root.1 = mapReferences (turn rootName keys.keyOf none) (bundleSource document) :=
    rewrite_turned hroot hcopied.keeps
  obtain ⟨hrootTakes, -⟩ := htakes.bundleSource.rewrite hroot
  obtain ⟨defs, hown, hadded⟩ := hrootTakes.definition?_addCopies copies
  have hcopy := fun name hname => hcopied.exists_copy ((hreached name).2 hname)
  refine ⟨keys.keyOf, ?_, hcounted, ?_, ?_, ?_, ?_, ?_, ?_⟩
  · obtain ⟨members, hmembers, -⟩ := hrootTakes
    rw [hmembers]
    exact addCopies_object members
  · intro name other hname hother
    exact hcopied.keyOf_injective ((hreached name).2 hname) ((hreached other).2 hother)
  · intro name hname
    obtain ⟨source, -, hmem⟩ := hcopy name hname
    exact hcopied.apart _ (List.mem_map_of_mem hmem)
  · intro name hname
    obtain ⟨source, hresolve, hmem⟩ := hcopy name hname
    refine ⟨source, hresolve, ?_⟩
    rw [hadded]
    exact get?_withCopies_of_mem defs hcopied.fresh hmem
  · intro other hother
    have hapart : other ∉ copies.map (·.1) := by
      intro hmem
      obtain ⟨name, hname, hkey⟩ := hcopied.key_mem hmem
      exact hother name ((hreached name).1 hname) hkey
    rw [hadded, get?_withCopies_of_not_mem defs hapart, ← hown, hturned, definition?_mapReferences,
      definition?_bundleSource]
  · intro name hname
    rw [member?_addCopies_of_ne _ hname, hturned, member?_mapReferences, member?_bundleSource]
    split <;> rfl
  · intro hnone
    have hnames : names = [] :=
      List.eq_nil_iff_forall_not_mem.2 fun name hmem => hnone name ((hreached name).1 hmem)
    have hcopies : copies = [] := by
      rw [← List.length_eq_zero_iff, hcopied.length_eq, hnames]
      rfl
    have hsame : addCopies root.1 copies = root.1 := by
      obtain ⟨members, hmembers, -⟩ := hrootTakes
      rw [hmembers, hcopies]
      rfl
    rw [hsame, hturned, member?_mapReferences, member?_bundleSource, if_neg (by decide)]

/-! ## Top theorem -/

variable {catalog : Catalog} {name : String}

/-- A name is registered and has a document if its schema is in the catalog and can be composed. -/
theorem resolves_iff :
    (name ∈ catalog.resolver.names ∧ ∃ source, catalog.resolver.resolve name = .ok source) ↔
      ∃ schema merged, Entries.get? catalog name = some schema ∧
        catalog.compose schema = .ok merged := by
  show (name ∈ Entries.keys catalog ∧ ∃ source, catalog.composeNamed name = .ok source) ↔ _
  rw [← Entries.get?_isSome_iff]
  unfold Catalog.composeNamed
  cases hget : Entries.get? catalog name with
  | none => simp
  | some schema => simp

/-- Bundling fails at a name of a catalog as composing the name does. -/
theorem FailsAt.composeNamed {failure : Failure} (h : FailsAt catalog.resolver name failure) :
    catalog.composeNamed name = .error failure := by
  rcases h with ⟨hstray, rfl⟩ | hresolve
  · have hget : Entries.get? catalog name = none := (Entries.get?_eq_none_iff catalog name).2 hstray
    unfold Catalog.composeNamed
    rw [hget]
  · exact hresolve

/-- Bundling a document with the schemas of a catalog. The loop ends, and its only outcome is that
of the bundle. It ends well if and only if every schema that is reached is registered and can be
composed, and fails otherwise as composing one of them does. The bundle has a definition for each
schema that is reached, and is the document in all else; the document itself is not among them. -/
theorem bundle_closes_catalog (rootName : String) (catalog : Catalog)
    (htakes : TakesCopies document) :
    let needed := Needs rootName document catalog.resolver
    (∀ outcome, Bundling rootName document catalog.resolver outcome ↔
      outcome = bundle rootName document catalog.resolver) ∧
    ((∃ out, bundle rootName document catalog.resolver = .ok out) ↔
      ∀ name, needed name → ∃ schema merged,
        Entries.get? catalog name = some schema ∧ catalog.compose schema = .ok merged) ∧
    (∀ failure, bundle rootName document catalog.resolver = .error failure →
      ∃ name, needed name ∧ catalog.composeNamed name = .error failure) ∧
    (∀ out, bundle rootName document catalog.resolver = .ok out →
      ∃ key, IsBundle rootName document catalog.resolver key out) ∧
    ¬ needed rootName := by
  intro needed
  refine ⟨fun outcome => bundling_iff, ?_, fun failure hfails => ?_, fun out hout =>
    isBundle_of_bundle htakes hout, fun hroot => hroot.ne_root (rootName_not_mem_targets _ _) rfl⟩
  · rw [bundle_ok_iff]
    exact forall₂_congr fun name _ => resolves_iff
  · obtain ⟨name, hname, hat⟩ := bundle_error hfails
    exact ⟨name, hname, hat.composeNamed⟩

def townCatalog : Catalog :=
  [("address", ⟨"address", .object [("$id", .string "address"),
      ("town", .object [("$ref", .string "town")]), ("zip", .object [("type", .string "string")])],
      none, none, [], none⟩),
    ("town", ⟨"town", .object [("mayor", .object [("$ref", .string "person")]),
      ("hall", .object [("$ref", .string "address")])], none, none, [], none⟩)]

/-- A person at home in a town, where one name is taken among the definitions. -/
theorem bundle_closes_townCatalog :
    ∃ out key, bundle "person" personDocument townCatalog.resolver = .ok out ∧
      IsBundle "person" personDocument townCatalog.resolver key out ∧
      key "address" ≠ "address" ∧ definition? out "address" = some (.bool true) := by
  have htakes : TakesCopies personDocument := by
    refine ⟨_, rfl, fun defs h => ?_⟩
    cases h
    exact ⟨_, rfl⟩
  obtain ⟨out, hout⟩ : ∃ out, bundle "person" personDocument townCatalog.resolver = .ok out :=
    ⟨_, rfl⟩
  obtain ⟨key, hbundle⟩ := (bundle_closes_catalog "person" townCatalog htakes).2.2.2.1 out hout
  have hneeded : Needs "person" personDocument townCatalog.resolver "address" :=
    .asked (by decide)
  refine ⟨out, key, hout, hbundle, fun hsame => ?_, ?_⟩
  · exact hbundle.fresh "address" hneeded (by rw [hsame]; decide)
  · rw [hbundle.definitions "address" fun name hname hkey =>
      hbundle.fresh name hname (by rw [hkey]; decide)]
    rfl

end Schemata.Bundle
