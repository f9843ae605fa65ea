import Schemata.Proofs.Bundle.Turned

/-!
# What bundling copies

Bundling copies the schemas that references reach from the document, each of them once. A name gets
its key when it enters the queue, so that the names with keys are those that are copied already, and
behind them those that wait.

    a round takes a name from those that wait to those that are done           (Underway.round)
    copyQueue = .ok copies → copies of the names that are reached, in order      (copyQueue_ok)
    n is not reached → copyQueue with root n = copyQueue without root        (copyQueue_rootName)
-/

namespace Schemata.Bundle

open Json (Value)

/-! ## Algorithm -/

/-- What is copied of a document. -/
def copySource (document : Value) : Value :=
  (document.withoutMember "$id").withoutMember "$schema"

/-- The schemas that references reach: those that are asked for at the start, and the targets of the
documents of those that are reached. -/
inductive Reached (rootName : String) (resolver : Resolver) (start : List String) : String → Prop
  | asked {name : String} (hstart : name ∈ start) : Reached rootName resolver start name
  | copied {name target : String} {document : Value}
      (hreached : Reached rootName resolver start name)
      (hresolve : resolver.resolve name = .ok document)
      (htarget : target ∈ targets rootName (copySource document)) :
      Reached rootName resolver start target

/-- The names with keys are those that are done and then those that wait. -/
def Balanced (done : List String) (state : State) : Prop :=
  state.keys.names = (done ++ state.queue).reverse

/-- One state follows another when copies of some schemas are asked for. -/
structure State.Grown (asked : List String) (before after : State) : Prop where
  names : ∀ name, name ∈ after.keys.names ↔ name ∈ before.keys.names ∨ name ∈ asked
  queue : ∀ name ∈ after.queue, name ∈ before.queue ∨ name ∈ asked
  waits : before.queue ⊆ after.queue
  keeps : before.keys.Extends after.keys
  balanced : ∀ done, Balanced done before → Balanced done after
  distinct : ∀ initial, before.keys.Distinct initial → after.keys.Distinct initial

/-! ## Asking -/

theorem grown_ask (state : State) (target : String) :
    State.Grown [target] state (state.ask target) := by
  have hnames := DefKeys.names_keyFor state.keys target
  refine ⟨fun name => ?_, fun name hmem => ?_, fun name hmem => ?_,
    DefKeys.extends_keyFor state.keys target, fun done hbalanced => ?_,
    fun initial hdistinct => hdistinct.keyFor target⟩
  · show name ∈ (state.keys.keyFor target).2.names ↔ _
    rw [hnames, List.mem_singleton]
    split
    · next hmem =>
      constructor
      · exact Or.inl
      · rintro (h | rfl)
        · exact h
        · exact hmem
    · rw [List.mem_cons, or_comm]
  · unfold State.ask at hmem
    dsimp only at hmem
    split at hmem
    · exact Or.inl hmem
    · exact List.mem_append.1 hmem
  · unfold State.ask
    dsimp only
    split
    · exact hmem
    · exact List.mem_append_left _ hmem
  · unfold Balanced State.ask at *
    dsimp only
    rw [hnames]
    by_cases hmem : target ∈ state.keys.names
    · rw [if_pos hmem, if_pos (DefKeys.hasName_iff.2 hmem), hbalanced]
    · rw [if_neg hmem, if_neg (mt DefKeys.hasName_iff.1 hmem), hbalanced]
      simp

theorem grown_foldl (asked : List String) (state : State) :
    State.Grown asked state (asked.foldl State.ask state) := by
  induction asked generalizing state with
  | nil =>
    exact ⟨by simp, fun _ h => Or.inl h, fun _ h => h, .refl _, fun _ h => h, fun _ h => h⟩
  | cons target asked ih =>
    have hfirst := grown_ask state target
    have hrest := ih (state.ask target)
    rw [List.foldl_cons]
    refine ⟨fun name => ?_, fun name hmem => ?_, fun name hmem => hrest.waits (hfirst.waits hmem),
      hfirst.keeps.trans hrest.keeps,
      fun done h => hrest.balanced done (hfirst.balanced done h),
      fun initial h => hrest.distinct initial (hfirst.distinct initial h)⟩
    · rw [hrest.names, hfirst.names, List.mem_singleton, List.mem_cons, or_assoc]
    · rcases hrest.queue name hmem with h | h
      · rcases hfirst.queue name h with h | h
        · exact Or.inl h
        · exact Or.inr (List.mem_cons.2 (Or.inl (List.mem_singleton.1 h)))
      · exact Or.inr (List.mem_cons_of_mem target h)

theorem Asks.grown {scope : Scope} {references : List String} {before after : State}
    (h : Asks scope references before after) :
    State.Grown (foreignTargets scope.rootName references) before after := by
  rw [h.state]
  exact grown_foldl _ before

/-! ## Reaching -/

variable {rootName : String} {resolver : Resolver} {start : List String}

/-- What is reached from what is reached is reached. -/
theorem Reached.trans {middle : List String} {name : String}
    (h : Reached rootName resolver middle name)
    (hstart : ∀ other ∈ middle, Reached rootName resolver start other) :
    Reached rootName resolver start name := by
  induction h with
  | asked hmem => exact hstart _ hmem
  | copied _ hresolve htarget ih => exact .copied ih hresolve htarget

/-- Without a root at least as much is reached. -/
theorem Reached.rootless {start' : List String} (hsub : start ⊆ start') {name : String}
    (h : Reached rootName resolver start name) : Reached "" resolver start' name := by
  induction h with
  | asked hmem => exact .asked (hsub hmem)
  | copied _ hresolve htarget ih =>
    exact .copied ih hresolve (targets_subset rootName _ htarget)

/-- The bundled document is never copied. -/
theorem Reached.ne_root (hstart : rootName ∉ start) {name : String}
    (h : Reached rootName resolver start name) : name ≠ rootName := by
  rintro rfl
  cases h with
  | asked hmem => exact hstart hmem
  | copied _ _ htarget => exact rootName_not_mem_targets _ _ htarget

/-! ## Copying -/

theorem copyQueue_cons (fuel : Nat) (keys : DefKeys) (name : String) (queue : List String) :
    copyQueue rootName resolver (fuel + 1) ⟨keys, name :: queue⟩ =
      (resolver.resolve name).bind fun document =>
        (rewrite ⟨rootName, some (keys.keyFor name).1, resolver⟩ (copySource document)
          ⟨(keys.keyFor name).2, queue⟩).bind fun copy =>
            (copyQueue rootName resolver fuel copy.2).bind fun copies =>
              .ok (((keys.keyFor name).1, copy.1) :: copies) := by
  conv => lhs; unfold copyQueue
  rfl

/-- Unless it is reached, the bundled document may as well have no name. -/
theorem copyQueue_rootName (hfree : ¬ Reached "" resolver start rootName) {fuel : Nat}
    {state : State} (hreached : ∀ name ∈ state.queue, Reached "" resolver start name) :
    copyQueue rootName resolver fuel state = copyQueue "" resolver fuel state := by
  induction fuel generalizing state with
  | zero => rfl
  | succ fuel ih =>
    obtain ⟨keys, queue⟩ := state
    cases queue with
    | nil => rfl
    | cons name queue =>
      rw [copyQueue_cons, copyQueue_cons]
      cases hresolve : resolver.resolve name with
      | error failure => rfl
      | ok document =>
        have hname := hreached name List.mem_cons_self
        have hfar : rootName ∉ targets "" (copySource document) :=
          fun htarget => hfree (.copied hname hresolve htarget)
        simp only [Except.bind]
        rw [rewrite_rootName _ hfar]
        cases hrewrite : rewrite ⟨"", some (keys.keyFor name).1, resolver⟩ (copySource document)
            ⟨(keys.keyFor name).2, queue⟩ with
        | error failure => rfl
        | ok copy =>
          dsimp only
          rw [ih]
          intro other hother
          rcases (rewrite_asks hrewrite).grown.queue other hother with hold | hasked
          · exact hreached other (List.mem_cons_of_mem name hold)
          · exact .copied hname hresolve hasked

/-- What copying the schemas of a queue leads to: the names that are copied in order, and the keys in
the end. -/
structure Copied (rootName : String) (resolver : Resolver) (initial done : List String)
    (state : State) (copies : List (String × Value)) (names : List String) (keys : DefKeys) :
    Prop where
  distinct : keys.Distinct initial
  keeps : state.keys.Extends keys
  order : keys.names = (done ++ names).reverse
  keyed : copies.map (fun copy => some copy.1) = names.map fun name => keys.byName.lookup name
  queued : state.queue ⊆ names
  registered : names ⊆ resolver.names
  reached : ∀ name ∈ names, Reached rootName resolver state.queue name
  closed : ∀ name ∈ names, ∃ document, resolver.resolve name = .ok document ∧
    targets rootName (copySource document) ⊆ done ++ names
  turned : ∀ copy ∈ copies, ∃ name document, keys.byName.lookup name = some copy.1 ∧
    resolver.resolve name = .ok document ∧
    copy.2 = mapReferences (turn rootName keys.keyOf (some copy.1)) (copySource document)

/-- What copying the first schema of a queue and then the rest leads to. -/
theorem Copied.cons {initial done : List String} {keys keys' : DefKeys} {name : String}
    {queue names : List String} {after : State} {document copy : Value} {key : String}
    {copies : List (String × Value)} (hlookup : keys.byName.lookup name = some key)
    (hregistered : name ∈ resolver.names) (hresolve : resolver.resolve name = .ok document)
    (hgrown : State.Grown (targets rootName (copySource document)) ⟨keys, queue⟩ after)
    (hbalanced : Balanced (done ++ [name]) after)
    (hturned : after.keys.Extends keys' →
      copy = mapReferences (turn rootName keys'.keyOf (some key)) (copySource document))
    (h : Copied rootName resolver initial (done ++ [name]) after copies names keys') :
    Copied rootName resolver initial done ⟨keys, name :: queue⟩ ((key, copy) :: copies)
      (name :: names) keys' := by
  have hnames : done ++ [name] ++ names = done ++ (name :: names) := by simp
  have hreach : ∀ other ∈ after.queue, Reached rootName resolver (name :: queue) other := by
    intro other hother
    rcases hgrown.queue other hother with hold | hasked
    · exact .asked (List.mem_cons_of_mem name hold)
    · exact .copied (.asked List.mem_cons_self) hresolve hasked
  have hkey := h.keeps name key (hgrown.keeps name key hlookup)
  refine ⟨h.distinct, hgrown.keeps.trans h.keeps, hnames ▸ h.order, ?_, ?_,
    List.cons_subset.2 ⟨hregistered, h.registered⟩, ?_, ?_, ?_⟩
  · rw [List.map_cons, List.map_cons, h.keyed, hkey]
  · intro other hother
    rcases List.mem_cons.1 hother with rfl | hother
    · exact List.mem_cons_self
    · exact List.mem_cons_of_mem name (h.queued (hgrown.waits hother))
  · intro other hother
    rcases List.mem_cons.1 hother with rfl | hother
    · exact .asked List.mem_cons_self
    · exact (h.reached other hother).trans hreach
  · intro other hother
    rw [← hnames]
    rcases List.mem_cons.1 hother with rfl | hother
    · -- what is asked for while copying is done already or waits
      refine ⟨document, hresolve, fun target htarget => ?_⟩
      have hkeyed : target ∈ after.keys.names := (hgrown.names target).2 (Or.inr htarget)
      rw [hbalanced, List.mem_reverse, List.mem_append] at hkeyed
      rcases hkeyed with hdone | hqueue
      · exact List.mem_append_left _ hdone
      · exact List.mem_append_right _ (h.queued hqueue)
    · exact h.closed other hother
  · intro other hother
    rcases List.mem_cons.1 hother with rfl | hother
    · exact ⟨name, document, hkey, hresolve, hturned h.keeps⟩
    · exact h.turned other hother

/-- What holds while the loop runs: the names with keys are those that are done and those that wait,
each of them once, and all of them are registered. -/
structure Underway (resolver : Resolver) (initial done : List String) (state : State) : Prop where
  balanced : Balanced done state
  distinct : state.keys.Distinct initial
  registered : state.keys.names ⊆ resolver.names

/-- The loop starts with what the references of the document ask for. -/
theorem underway_start {initial : List String} {value : Value} {root : Value × State}
    (h : rewrite ⟨rootName, none, resolver⟩ value ⟨DefKeys.start initial, []⟩ = .ok root) :
    Underway resolver initial [] root.2 := by
  have hasks := rewrite_asks h
  have hgrown := hasks.grown
  refine ⟨hgrown.balanced [] rfl, hgrown.distinct _ (DefKeys.distinct_start initial), ?_⟩
  intro name hname
  rcases (hgrown.names name).1 hname with hold | hasked
  · cases hold
  · exact hasks.registered name hasked

namespace Underway

variable {initial done queue : List String} {keys : DefKeys} {name : String} {state : State}

/-- A name that waits has a key already. -/
theorem mem_names (h : Underway resolver initial done ⟨keys, name :: queue⟩) :
    name ∈ keys.names := by
  have hnames : keys.names = (done ++ name :: queue).reverse := h.balanced
  simp [hnames]

/-- A round takes a name from those that wait to those that are done. -/
theorem round (h : Underway resolver initial done ⟨keys, name :: queue⟩) {key : Option String}
    {document : Value} {copy : Value × State}
    (hrewrite : rewrite ⟨rootName, key, resolver⟩ (copySource document) ⟨keys, queue⟩ = .ok copy) :
    Underway resolver initial (done ++ [name]) copy.2 := by
  have hasks := rewrite_asks hrewrite
  have hgrown := hasks.grown
  have hnames : keys.names = (done ++ name :: queue).reverse := h.balanced
  have hdone : Balanced (done ++ [name]) ⟨keys, queue⟩ := by
    unfold Balanced
    rw [List.append_assoc]
    exact hnames
  refine ⟨hgrown.balanced _ hdone, hgrown.distinct _ h.distinct, fun other hother => ?_⟩
  rcases (hgrown.names other).1 hother with hold | hasked
  · exact h.registered hold
  · exact hasks.registered other hasked

/-- There are no more names than registered ones. -/
theorem length_le (h : Underway resolver initial done state) :
    done.length + state.queue.length ≤ resolver.names.length := by
  have hlength := h.distinct.names.length_le_of_subset h.registered
  rw [h.balanced, List.length_reverse, List.length_append] at hlength
  exact hlength

end Underway

/-- The fuel lasts, because names with keys are registered and different. -/
theorem copyQueue_ok {initial : List String} {fuel : Nat} {state : State} {done : List String}
    {copies : List (String × Value)} (hunderway : Underway resolver initial done state)
    (hfuel : resolver.names.length < fuel + done.length)
    (h : copyQueue rootName resolver fuel state = .ok copies) :
    ∃ names keys, Copied rootName resolver initial done state copies names keys := by
  induction fuel generalizing state done copies with
  | zero =>
    have hlength := hunderway.length_le
    omega
  | succ fuel ih =>
    obtain ⟨keys, queue⟩ := state
    cases queue with
    | nil =>
      cases h
      have hnames := hunderway.balanced
      exact ⟨[], keys, hunderway.distinct, .refl keys, hnames, rfl, List.Subset.refl _,
        List.nil_subset _, fun _ h => (nomatch h), fun _ h => (nomatch h), fun _ h => (nomatch h)⟩
    | cons name queue =>
      obtain ⟨key, hlookup, hkey⟩ := DefKeys.keyFor_of_mem hunderway.mem_names
      rw [copyQueue_cons, hkey] at h
      obtain ⟨document, hresolve, h⟩ := bind_eq_ok_iff.1 h
      obtain ⟨copy, hrewrite, h⟩ := bind_eq_ok_iff.1 h
      obtain ⟨rest, hrest, h⟩ := bind_eq_ok_iff.1 h
      cases h
      have hround := hunderway.round hrewrite
      obtain ⟨names, keys', hcopied⟩ := ih hround
        (by rw [List.length_append, List.length_singleton]; omega) hrest
      exact ⟨name :: names, keys', hcopied.cons hlookup (hunderway.registered hunderway.mem_names)
        hresolve (rewrite_asks hrewrite).grown hround.balanced (rewrite_turned hrewrite)⟩

end Schemata.Bundle
