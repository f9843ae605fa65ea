import Schemata.Proofs.Registry.Locality

/-!
# Merging as it runs

Composition hands the chain of names down into each extension. What runs goes into extensions for as
long as there are any, and all branches share one stack of the names that are being merged. It ends: a
merge nests at most one level deeper than there are schemas, its outcome is that of the composition below
the chain on the stack, and it leaves the stack as it was. So an extension meets the names that lead to it, and none
of those that were merged before it.

    some path from a name meets itself ↔ a cycle is reachable from it           (exists_not_nodup_iff)
    mergeInto deep enough on a stack = composeBelow, with the stack restored           (mergeInto_run)
    composed below a chain → composed with less of a chain and more fuel         (composeBelow_ok_mono)
    a composed schema → every schema at the end of a path is composed            (composeBelow_ok_along)
    a merge ends, fails just on cycles, and is the same wherever it is met       (mergeInto_ends)
-/

namespace Schemata.Catalog

open Json (Value)

/-! ## Algorithm -/

/-- The merge of a schema, where the state is the stack of the names that are being merged. A name that
is on it is met again; another one is put on it while the documents of its extensions are laid over its
own, and then taken off it. A merge that nests deeper than a bound is cut off, and `none`: one that has
no end is cut off at every bound. -/
def mergeInto (catalog : Catalog) : Nat → Schema → StateT (List String) (ExceptT Failure Option) Value
  | 0, _ => fun _ => (none : Option (Except Failure (Value × List String)))
  | depth + 1, schema => do
    let stack ← get
    if stack.contains schema.name then throw (.circularExtension (stack ++ [schema.name]))
    else
      set (stack ++ [schema.name])
      let merged ← schema.extensions.foldlM (fun merged extension =>
        match Entries.get? catalog extension with
        | none => pure merged
        | some patch => do
          let document ← mergeInto catalog depth patch
          pure (merged.overlay (document.withoutMember "$id"))) schema.ownDocument
      modify List.dropLast
      pure merged

/-- The documents of extensions laid over a document, for a way to compose a schema. -/
def layOver (catalog : Catalog) (compose : Schema → Except Failure Value) (extensions : List String)
    (document : Value) : Except Failure Value :=
  extensions.foldlM (fun merged extension =>
    match Entries.get? catalog extension with
    | none => .ok merged
    | some patch => do
      let document ← compose patch
      pure (merged.overlay (document.withoutMember "$id"))) document

def ofLists (lists : List (String × List String)) : Catalog :=
  lists.map fun (name, extensions) => (name, ⟨name, .object [], none, none, extensions, none⟩)

variable {catalog : Catalog}

/-! ## Paths that meet themselves -/

section Paths

variable {Node : Type} {next : Node → Node → Prop}

/-- Some path from a start meets itself exactly if a cycle is reachable from there. -/
theorem exists_not_nodup_iff (start : Node) :
    (∃ ahead, (start :: ahead).IsChain next ∧ ¬ (start :: ahead).Nodup) ↔
      ∃ member, Relation.ReflTransGen next start member ∧ Relation.TransGen next member member := by
  constructor
  · rintro ⟨ahead, hpath, hmeets⟩
    induction ahead generalizing start with
    | nil => exact absurd (List.nodup_singleton start) hmeets
    | cons second ahead ih =>
      by_cases hback : start ∈ second :: ahead
      · have hsteps := hpath.imp fun _ _ hstep => Relation.TransGen.single hstep
        exact ⟨start, .refl, hsteps.rel_cons hback⟩
      · obtain ⟨hstep, hrest⟩ := List.isChain_cons_cons.1 hpath
        have hmeets' : ¬ (second :: ahead).Nodup := by
          intro hnodup
          exact hmeets (List.nodup_cons.2 ⟨hback, hnodup⟩)
        obtain ⟨member, hreaches, hcycle⟩ := ih second hrest hmeets'
        exact ⟨member, .head hstep hreaches, hcycle⟩
  · rintro ⟨member, hreaches, hcycle⟩
    induction hreaches using Relation.ReflTransGen.head_induction_on with
    | refl =>
      obtain ⟨second, hstep, hback⟩ := Relation.TransGen.head'_iff.1 hcycle
      obtain ⟨ahead, hpath, hlast⟩ := List.exists_isChain_cons_of_relationReflTransGen hback
      refine ⟨second :: ahead, List.isChain_cons_cons.2 ⟨hstep, hpath⟩, fun hnodup => ?_⟩
      have hmem := List.getLast_mem (List.cons_ne_nil second ahead)
      rw [hlast] at hmem
      exact (List.nodup_cons.1 hnodup).1 hmem
    | head hstep _ ih =>
      obtain ⟨ahead, hpath, hmeets⟩ := ih
      refine ⟨_ :: ahead, List.isChain_cons_cons.2 ⟨hstep, hpath⟩, fun hnodup => ?_⟩
      exact hmeets (List.nodup_cons.1 hnodup).2

end Paths

/-- A path that ends where it has been before meets itself. -/
theorem Closes.not_nodup {start : String} {ahead : List String} (h : Closes (start :: ahead)) :
    ¬ (start :: ahead).Nodup := by
  intro hnodup
  have hne := List.cons_ne_nil start ahead
  have hmem := h.returns _ (List.getLast?_eq_some_getLast hne)
  rw [← List.dropLast_append_getLast hne] at hnodup
  rw [List.nodup_append] at hnodup
  exact hnodup.2.2 _ hmem _ (List.mem_singleton_self _) rfl

/-- The names of a path are registered. -/
theorem registered_of_isChain {name : String} {ahead : List String}
    (hregistered : (Entries.get? catalog name).isSome)
    (hpath : (name :: ahead).IsChain catalog.Extends) : name :: ahead ⊆ Entries.keys catalog := by
  intro member hmem
  rw [← Entries.get?_isSome_iff]
  refine hpath.induction (fun member => (Entries.get? catalog member).isSome) _ ?_ ?_ member hmem
  · rintro source extension ⟨-, -, -, hextension⟩ -
    exact hextension
  · intro hne
    exact hregistered

/-! ## One merge -/

/-- A fold with a state that every attempt leaves as it was. -/
theorem run_foldlM {σ ε α β : Type} {f : β → α → StateT σ (ExceptT ε Option) β}
    {g : β → α → Except ε β} {attempts : List α} {state : σ}
    (h : ∀ attempt ∈ attempts, ∀ b,
      ((f b attempt).run state).run = some ((g b attempt).map fun b' => (b', state))) (start : β) :
    ((attempts.foldlM f start).run state).run =
      some ((attempts.foldlM g start).map fun result => (result, state)) := by
  induction attempts generalizing start with
  | nil => rfl
  | cons attempt attempts ih =>
    have hfirst := h attempt List.mem_cons_self start
    have hrest := ih fun other hmem => h other (List.mem_cons_of_mem attempt hmem)
    rw [List.foldlM_cons, List.foldlM_cons, StateT.run_bind, ExceptT.run_bind, hfirst]
    cases g start attempt with
    | error e => rfl
    | ok middle => exact hrest middle

theorem mergeInto_met {depth : Nat} {schema : Schema} {stack : List String} (h : schema.name ∈ stack) :
    ((catalog.mergeInto (depth + 1) schema).run stack).run =
      some (.error (.circularExtension (stack ++ [schema.name]))) := by
  rw [mergeInto, StateT.run_bind, StateT.run_get, pure_bind, if_pos (List.contains_iff_mem.2 h)]
  rfl

/-- The loop over extensions, where their merges restore the stack. -/
theorem run_layOver {depth : Nat} {compose : Schema → Except Failure Value}
    {extensions stack : List String}
    (h : ∀ extension ∈ extensions, ∀ patch, Entries.get? catalog extension = some patch →
      ((catalog.mergeInto depth patch).run stack).run =
        some ((compose patch).map fun document => (document, stack))) (document : Value) :
    ((extensions.foldlM (fun merged extension =>
      match Entries.get? catalog extension with
      | none => pure merged
      | some patch => do
        let document ← catalog.mergeInto depth patch
        pure (merged.overlay (document.withoutMember "$id"))) document :
      StateT (List String) (ExceptT Failure Option) Value).run stack).run =
        some ((catalog.layOver compose extensions document).map fun result => (result, stack)) := by
  unfold layOver
  refine run_foldlM (fun extension hmem merged => ?_) document
  cases hget : Entries.get? catalog extension with
  | none => rfl
  | some patch =>
    dsimp only
    rw [StateT.run_bind, ExceptT.run_bind, h extension hmem patch hget]
    cases compose patch with
    | error failure => rfl
    | ok document => rfl

/-- A merge of a name that is not on the stack, where the merges of its extensions restore the stack. -/
theorem mergeInto_new {depth : Nat} {compose : Schema → Except Failure Value} {schema : Schema}
    {stack : List String} (hnew : schema.name ∉ stack)
    (h : ∀ extension ∈ schema.extensions, ∀ patch, Entries.get? catalog extension = some patch →
      ((catalog.mergeInto depth patch).run (stack ++ [schema.name])).run =
        some ((compose patch).map fun document => (document, stack ++ [schema.name]))) :
    ((catalog.mergeInto (depth + 1) schema).run stack).run =
      some ((catalog.layOver compose schema.extensions schema.ownDocument).map
        fun document => (document, stack)) := by
  rw [mergeInto, StateT.run_bind, StateT.run_get, pure_bind, if_neg (mt List.contains_iff_mem.1 hnew)]
  rw [StateT.run_bind, StateT.run_set, pure_bind, StateT.run_bind, ExceptT.run_bind,
    run_layOver h schema.ownDocument]
  cases catalog.layOver compose schema.extensions schema.ownDocument with
  | error failure => rfl
  | ok document =>
    have hrestored : (stack ++ [schema.name]).dropLast = stack := List.dropLast_concat
    exact congrArg (fun after => some (Except.ok (document, after))) hrestored

/-! ## Runs -/

theorem composeBelow_new {fuel : Nat} {chain : List String} {schema : Schema}
    (h : schema.name ∉ chain) :
    catalog.composeBelow (fuel + 1) chain schema =
      catalog.layOver (catalog.composeBelow fuel (chain ++ [schema.name])) schema.extensions
        schema.ownDocument := by
  unfold composeBelow
  rw [if_neg (mt List.contains_iff_mem.1 h)]
  rfl

/-- A merge on the stack of a path without a repetition ends as the composition does below that chain,
and the stack is as it was. It nests at most one level deeper than there are schemas beside those of the
path: the last of the names that it meets may be one of them. -/
theorem mergeInto_run (hkeyed : catalog.Keyed) {depth fuel : Nat} {chain : List String}
    {schema : Schema} (honce : chain.Nodup) (hregistered : chain ⊆ Entries.keys catalog)
    (hdepth : catalog.length < chain.length + depth) (hfuel : catalog.length < chain.length + fuel)
    (hget : Entries.get? catalog schema.name = some schema) :
    ((catalog.mergeInto depth schema).run chain).run =
      some ((catalog.composeBelow fuel chain schema).map fun document => (document, chain)) := by
  induction depth generalizing fuel chain schema with
  | zero => exact absurd rfl (fuel_ne_zero honce hregistered hdepth)
  | succ depth ih =>
    obtain ⟨fuel, rfl⟩ := Nat.exists_eq_succ_of_ne_zero (fuel_ne_zero honce hregistered hfuel)
    by_cases hmet : schema.name ∈ chain
    · rw [mergeInto_met hmet]
      unfold composeBelow
      rw [if_pos (List.contains_iff_mem.2 hmet)]
      rfl
    · rw [composeBelow_new hmet]
      refine mergeInto_new hmet fun extension hmem patch hpatch => ?_
      have hkey : schema.name ∈ Entries.keys catalog := by
        rw [← Entries.get?_isSome_iff, hget]
        rfl
      have hlonger : (chain ++ [schema.name]).length = chain.length + 1 := by simp
      refine ih (List.concat_eq_append ▸ List.Nodup.concat hmet honce)
        (List.append_subset.2 ⟨hregistered, by simpa using hkey⟩) (by omega) (by omega) ?_
      rw [hkeyed extension patch hpatch]
      exact hpatch

/-- What can be composed below a chain is the same below fewer names, and with more fuel. -/
theorem composeBelow_ok_mono {fuel fuel' : Nat} {chain chain' : List String} {schema : Schema}
    {document : Value} (hfuel : fuel ≤ fuel') (hchain : chain' ⊆ chain)
    (h : catalog.composeBelow fuel chain schema = .ok document) :
    catalog.composeBelow fuel' chain' schema = .ok document := by
  induction fuel generalizing fuel' chain chain' schema document with
  | zero => cases h
  | succ fuel ih =>
    obtain ⟨hnew, -⟩ := composeBelow_ok_cases h
    obtain ⟨fuel', rfl⟩ : ∃ below, fuel' = below + 1 := ⟨fuel' - 1, by omega⟩
    rw [composeBelow_new hnew] at h
    rw [composeBelow_new fun hmem => hnew (hchain hmem)]
    refine foldlM_ok_imp (fun extension hmem merged merged' hstep => ?_) h
    cases hget : Entries.get? catalog extension with
    | none =>
      rw [hget] at hstep
      exact hstep
    | some patch =>
      rw [hget] at hstep
      obtain ⟨inner, hinner, hlaid⟩ := bind_eq_ok_iff.1 hstep
      have hsubset : chain' ++ [schema.name] ⊆ chain ++ [schema.name] :=
        List.append_subset.2 ⟨fun name hname => List.mem_append_left _ (hchain hname),
          List.subset_append_right _ _⟩
      dsimp only
      rw [ih (by omega) hsubset hinner]
      exact hlaid

/-- A composition that ends well has composed every schema at the end of a path, below the names of
that path. -/
theorem composeBelow_ok_along (hkeyed : catalog.Keyed) {ahead : List String} {member : String}
    {target : Schema} {fuel : Nat} {chain : List String} {schema : Schema} {document : Value}
    (hget : Entries.get? catalog schema.name = some schema)
    (h : catalog.composeBelow fuel chain schema = .ok document)
    (hpath : (schema.name :: ahead).IsChain catalog.Extends)
    (hlast : (schema.name :: ahead).getLast? = some member)
    (htarget : Entries.get? catalog member = some target) :
    ∃ below ≤ fuel, ∃ inner,
      catalog.composeBelow below (chain ++ (schema.name :: ahead).dropLast) target = .ok inner := by
  induction ahead generalizing fuel chain schema document with
  | nil =>
    rw [List.getLast?_singleton] at hlast
    cases hlast
    rw [hget] at htarget
    cases htarget
    exact ⟨fuel, le_rfl, document, by simpa using h⟩
  | cons extension ahead ih =>
    obtain ⟨-, below, rfl, hbelow⟩ := composeBelow_ok_cases h
    obtain ⟨⟨source, hsource, hmem, hregistered⟩, hrest⟩ := List.isChain_cons_cons.1 hpath
    rw [hget] at hsource
    cases hsource
    obtain ⟨patch, hpatch⟩ := Option.isSome_iff_exists.1 hregistered
    obtain ⟨inner, hinner⟩ := hbelow extension hmem patch hpatch
    have hname : patch.name = extension := hkeyed extension patch hpatch
    subst hname
    rw [List.getLast?_cons_cons] at hlast
    obtain ⟨below', hle, inner', hinner'⟩ := ih hpatch hinner hrest hlast
    refine ⟨below', by omega, inner', ?_⟩
    rw [List.dropLast_cons_cons]
    rwa [List.append_assoc, List.singleton_append] at hinner'

/-- A composed schema is its own document with the composed documents of its extensions laid over it. -/
theorem layOver_of_compose {schema : Schema} {document : Value}
    (h : catalog.compose schema = .ok document) :
    catalog.layOver catalog.compose schema.extensions schema.ownDocument = .ok document := by
  unfold compose at h
  rw [composeBelow_new List.not_mem_nil] at h
  refine foldlM_ok_imp (fun extension hmem merged merged' hstep => ?_) h
  cases hpatch : Entries.get? catalog extension with
  | none =>
    rw [hpatch] at hstep
    exact hstep
  | some patch =>
    rw [hpatch] at hstep
    obtain ⟨inner, hinner, hlaid⟩ := bind_eq_ok_iff.1 hstep
    have hself : catalog.compose patch = .ok inner :=
      composeBelow_ok_mono (Nat.le_succ _) (List.nil_subset _) hinner
    dsimp only
    rw [hself]
    exact hlaid

/-- At the end of every path from a composed schema on, a merge gives what is composed there by
itself. -/
theorem mergeInto_along (hkeyed : catalog.Keyed) {ahead : List String} {member : String}
    {target schema : Schema} {document : Value}
    (hget : Entries.get? catalog schema.name = some schema)
    (h : catalog.compose schema = .ok document)
    (hpath : (schema.name :: ahead).IsChain catalog.Extends)
    (hlast : (schema.name :: ahead).getLast? = some member)
    (htarget : Entries.get? catalog member = some target) :
    ∃ inner, catalog.compose target = .ok inner ∧ ∀ depth, catalog.length < depth →
      ((catalog.mergeInto depth target).run (schema.name :: ahead).dropLast).run =
        some (.ok (inner, (schema.name :: ahead).dropLast)) := by
  obtain ⟨below, hle, inner, hinner⟩ := composeBelow_ok_along hkeyed hget h hpath hlast htarget
  have honce := composeBelow_ok_nodup hkeyed List.nodup_nil hget h hpath
  have hkeys := registered_of_isChain (by rw [hget]; rfl) hpath
  have hsub := List.dropLast_sublist (schema.name :: ahead)
  have hself : Entries.get? catalog target.name = some target := by
    rw [hkeyed member target htarget]
    exact htarget
  rw [List.nil_append] at hinner honce
  refine ⟨inner, composeBelow_ok_mono hle (List.nil_subset _) hinner, fun depth hdepth => ?_⟩
  have hrun := mergeInto_run hkeyed (honce.sublist hsub) (fun name hmem => hkeys (hsub.subset hmem))
    (show catalog.length < _ + depth by omega)
    (show catalog.length < _ + (catalog.length + 2) by omega) hself
  rw [composeBelow_ok_mono hle (List.Subset.refl _) hinner] at hrun
  exact hrun

/-! ## Top theorem -/

/-- In a catalog whose schemas are kept under their names, whatever their extension lists are: the merge
of a registered schema comes to an end, at most one level deeper than there are schemas, with nothing on
the stack if it ends well; its outcome is the composed document. It fails exactly if a cycle of registered
schemas is reachable, and then with a path from the schema along extension lists that closes there, and
nowhere before. Without such a cycle the documents of all registered extensions are laid over its own one
after the other, where each of them is composed by itself; and at the end of every path along extension
lists, the merge of a schema on the stack of that path ends well, with its own composed document and the
stack restored. So what is reached along several paths is merged each time. -/
theorem mergeInto_ends (hkeyed : catalog.Keyed) {name : String} {schema : Schema}
    (hget : Entries.get? catalog name = some schema) :
    (∀ depth, catalog.length < depth → ((catalog.mergeInto depth schema).run []).run =
        some ((catalog.compose schema).map fun document => (document, []))) ∧
      ((∃ failure, catalog.compose schema = .error failure) ↔
        ∃ member, catalog.Reaches name member ∧ Relation.TransGen catalog.Extends member member) ∧
      (∀ failure, catalog.compose schema = .error failure →
        ∃ ahead, failure = .circularExtension (name :: ahead) ∧
          (name :: ahead).IsChain catalog.Extends ∧ Closes (name :: ahead)) ∧
      (∀ document, catalog.compose schema = .ok document →
        catalog.layOver catalog.compose schema.extensions schema.ownDocument = .ok document ∧
        ∀ ahead member target, (name :: ahead).IsChain catalog.Extends →
          (name :: ahead).getLast? = some member → Entries.get? catalog member = some target →
          ∃ inner, catalog.compose target = .ok inner ∧ ∀ depth, catalog.length < depth →
            ((catalog.mergeInto depth target).run (name :: ahead).dropLast).run =
              some (.ok (inner, (name :: ahead).dropLast))) := by
  have hname : schema.name = name := hkeyed name schema hget
  subst hname
  have hfuel : catalog.length < ([] : List String).length + (catalog.length + 2) := by
    rw [List.length_nil]
    omega
  have hfailed : ∀ failure, catalog.compose schema = .error failure →
      ∃ ahead, failure = .circularExtension (schema.name :: ahead) ∧
        (schema.name :: ahead).IsChain catalog.Extends ∧ Closes (schema.name :: ahead) :=
    fun failure h => composeBelow_error hkeyed List.nodup_nil (List.nil_subset _) hfuel hget h
  refine ⟨fun depth hdepth => ?_, ?_, hfailed, fun document h => ⟨layOver_of_compose h,
    fun ahead member target hpath hlast htarget =>
      mergeInto_along hkeyed hget h hpath hlast htarget⟩⟩
  · exact mergeInto_run hkeyed List.nodup_nil (List.nil_subset _) (by simpa using hdepth) hfuel hget
  · unfold Reaches
    rw [← exists_not_nodup_iff]
    constructor
    · rintro ⟨failure, h⟩
      obtain ⟨ahead, -, hpath, hcloses⟩ := hfailed failure h
      exact ⟨ahead, hpath, hcloses.not_nodup⟩
    · rintro ⟨ahead, hpath, hmeets⟩
      cases h : catalog.compose schema with
      | error failure => exact ⟨failure, rfl⟩
      | ok document => exact absurd (composeBelow_ok_nodup hkeyed List.nodup_nil hget h hpath) hmeets

theorem keyed_ofLists (lists : List (String × List String)) : (ofLists lists).Keyed := by
  intro name schema hget
  obtain ⟨list, -, heq⟩ := List.mem_map.1 (Entries.mem_of_get? hget)
  cases heq
  rfl

/-- The bottom is reached from the top on two ways. A name beside them is not registered, and a cycle
stands apart. -/
def diamond : Catalog :=
  ofLists [("top", ["left", "gone", "right"]), ("left", ["bottom"]), ("right", ["bottom"]),
    ("bottom", []), ("aside", ["around"]), ("around", ["around"])]

/-- The bottom of the diamond is merged on both ways; the schema beside the cycle is not merged. -/
theorem mergeInto_ends_of_diamond :
    diamond.Keyed ∧
      (∃ bottom, Entries.get? diamond "bottom" = some bottom ∧
        ∃ inner, diamond.compose bottom = .ok inner ∧
          ((diamond.mergeInto 7 bottom).run ["top", "left"]).run =
            some (.ok (inner, ["top", "left"])) ∧
          ((diamond.mergeInto 7 bottom).run ["top", "right"]).run =
            some (.ok (inner, ["top", "right"]))) ∧
      ∃ aside, Entries.get? diamond "aside" = some aside ∧
        ∃ ahead, ((diamond.mergeInto 7 aside).run []).run =
            some (.error (.circularExtension ("aside" :: ahead))) ∧
          Closes ("aside" :: ahead) := by
  have hkeyed : diamond.Keyed := keyed_ofLists _
  have hdepth : diamond.length < 7 := by decide
  have hextends : ∀ name schema extension, Entries.get? diamond name = some schema →
      extension ∈ schema.extensions → (Entries.get? diamond extension).isSome →
      diamond.Extends name extension :=
    fun name schema extension hget hmem hregistered => ⟨schema, hget, hmem, hregistered⟩
  refine ⟨hkeyed, ?_, ?_⟩
  · obtain ⟨-, -, -, hwell⟩ := mergeInto_ends hkeyed (show Entries.get? diamond "top" = some _ from rfl)
    obtain ⟨-, halong⟩ := hwell (.object []) rfl
    have hleft : ["top", "left", "bottom"].IsChain diamond.Extends :=
      .cons_cons (hextends _ _ _ rfl (by decide) rfl)
        (.cons_cons (hextends _ _ _ rfl (by decide) rfl) (.singleton _))
    have hright : ["top", "right", "bottom"].IsChain diamond.Extends :=
      .cons_cons (hextends _ _ _ rfl (by decide) rfl)
        (.cons_cons (hextends _ _ _ rfl (by decide) rfl) (.singleton _))
    obtain ⟨inner, hinner, hmerged⟩ := halong _ "bottom" _ hleft rfl rfl
    obtain ⟨inner', hinner', hmerged'⟩ := halong _ "bottom" _ hright rfl rfl
    rw [hinner] at hinner'
    cases hinner'
    exact ⟨_, rfl, inner, hinner, hmerged 7 hdepth, hmerged' 7 hdepth⟩
  · obtain ⟨hrun, -, hfailed, -⟩ :=
      mergeInto_ends hkeyed (show Entries.get? diamond "aside" = some _ from rfl)
    have hmet : diamond.compose ⟨"aside", .object [], none, none, ["around"], none⟩ =
      .error (.circularExtension ["aside", "around", "around"]) := rfl
    obtain ⟨ahead, heq, -, hcloses⟩ := hfailed _ hmet
    rw [hmet, heq] at hrun
    exact ⟨_, rfl, ahead, hrun 7 hdepth, hcloses⟩

end Schemata.Catalog
