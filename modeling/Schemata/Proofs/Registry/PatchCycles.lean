import Mathlib.Logic.Relation
import Schemata.Proofs.Composition
import Schemata.Proofs.Registry.RegistrationOrder

/-!
# Patch cycles

Composition goes from a schema to its extensions, and patch sources lead back the same way. A schema
has one patch source, so that a path which meets itself does so at the schema where it started: the
schemas that fail to compose are those on a cycle of patch sources, and the chain of the failure is
that cycle. A schema outside of it composes, also one that patches a schema of the cycle.

    n has the extension e ↔ e patches n                                            (extends_iff)
    a path that meets itself goes around from its first name to it             (closes_at_start)
    resolveDocument n fails ↔ patch sources lead from n back to n       (resolveDocument_fails_iff)
-/

namespace Schemata.Registry

open Json (Value)

/-! ## Algorithm -/

/-- A registered schema patches another one: it names it as the schema that it extends. -/
def Patches (registry : Registry) (extension source : String) : Prop :=
  ∃ schema, Entries.get? registry.catalog extension = some schema ∧
    schema.patchSource = some source

/-- Patch sources, followed from a name through registered schemas, come back to it. -/
def OnPatchCycle (registry : Registry) (name : String) : Prop :=
  Relation.TransGen registry.Patches name name

variable {registry : Registry} {log : LinkLog} {name : String}

/-! ## Extensions and patch sources -/

theorem Tidy.keyed (h : registry.Tidy) : registry.catalog.Keyed :=
  fun _ _ hget => h.name_eq hget

/-- A schema patches one other schema at most. -/
theorem Patches.unique {extension source source' : String} (h : registry.Patches extension source)
    (h' : registry.Patches extension source') : source = source' := by
  obtain ⟨schema, hget, hsource⟩ := h
  obtain ⟨schema', hget', hsource'⟩ := h'
  rw [hget] at hget'
  cases hget'
  rw [hsource] at hsource'
  exact Option.some.inj hsource'

theorem patches_iff {extension source : String} :
    registry.Patches extension source ↔
      (registry.loaded? extension).bind (·.patchSource) = some source := by
  unfold Patches loaded?
  cases Entries.get? registry.catalog extension with
  | none => simp
  | some schema => simp [Schema.asLoaded]

/-- The extensions of a registered schema are the schemas that patch it. -/
theorem extends_iff (h : LinkLog.Agrees registry log) {source extension : String} :
    registry.catalog.Extends source extension ↔
      registry.Patches extension source ∧ (Entries.get? registry.catalog source).isSome := by
  have hlinked : extension ∈ registry.linked source ↔ registry.Patches extension source := by
    rw [h.linked, LinkLog.mem_extensionsOf, h.links, patches_iff]
  constructor
  · rintro ⟨schema, hget, hmem, -⟩
    exact ⟨hlinked.1 (linked_of_some hget ▸ hmem), by rw [hget]; rfl⟩
  · rintro ⟨hpatches, hregistered⟩
    obtain ⟨schema, hget⟩ := Option.isSome_iff_exists.1 hregistered
    refine ⟨schema, hget, linked_of_some hget ▸ hlinked.2 hpatches, ?_⟩
    obtain ⟨patch, hpatch, -⟩ := hpatches
    rw [hpatch]
    rfl

/-! ## Closed paths -/

/-- A path from sources to extensions that meets itself ends at the name where it started: of two
places with the same name, the earlier one has no other source than the later one. -/
theorem closes_at_start {ahead : List String}
    (hpath : (name :: ahead).IsChain fun source extension => registry.Patches extension source)
    (hcloses : Catalog.Closes (name :: ahead)) :
    ∃ others, ahead = others ++ [name] ∧ (name :: others).Nodup := by
  obtain ⟨path, last, hsplit⟩ : ∃ path last, name :: ahead = path ++ [last] :=
    ⟨_, _, (List.dropLast_append_getLast (List.cons_ne_nil name ahead)).symm⟩
  obtain ⟨honce, hreturns⟩ := hcloses
  rw [hsplit] at hpath honce hreturns
  rw [List.dropLast_concat] at honce
  have hmem : last ∈ path := by simpa using hreturns last (by simp)
  obtain ⟨before, after, rfl⟩ := List.append_of_mem hmem
  cases before with
  | nil =>
    rw [List.nil_append, List.cons_append, List.cons.injEq] at hsplit
    obtain ⟨rfl, rfl⟩ := hsplit
    exact ⟨after, rfl, honce⟩
  | cons first before =>
    exfalso
    obtain ⟨hfront, -, hlast⟩ := List.isChain_append.1 hpath
    obtain ⟨-, -, hearlier⟩ := List.isChain_append.1 hfront
    -- the sources of the two places: the name before the earlier one, and the one before the end
    obtain ⟨source, hsource⟩ : ∃ source, source ∈ (first :: before).getLast? :=
      ⟨_, List.getLast?_eq_getLast_of_ne_nil (List.cons_ne_nil first before)⟩
    obtain ⟨source', hsource'⟩ : ∃ source, source ∈ (last :: after).getLast? :=
      ⟨_, List.getLast?_eq_getLast_of_ne_nil (List.cons_ne_nil last after)⟩
    have hpatches := hearlier source hsource last rfl
    have hpatches' := hlast source' (by rw [List.getLast?_append, hsource']; rfl) last rfl
    have hdisjoint := (List.nodup_append.1 honce).2.2
    exact hdisjoint source (List.mem_of_getLast? hsource) source' (List.mem_of_getLast? hsource')
      (hpatches.unique hpatches')

/-- Patch sources do not lead out of a cycle. -/
theorem mem_of_transGen {others : List String}
    (hpath : (name :: (others ++ [name])).IsChain
      fun source extension => registry.Patches extension source)
    {other : String} (h : Relation.TransGen registry.Patches name other) :
    other ∈ name :: others := by
  have hclosed : ∀ extension ∈ name :: others, ∀ source,
      registry.Patches extension source → source ∈ name :: others := by
    intro extension hmem source hpatches
    have htail : extension ∈ others ++ [name] := by
      simpa [or_comm] using hmem
    obtain ⟨before, after, hsplit⟩ := List.append_of_mem htail
    rw [hsplit, ← List.cons_append] at hpath
    obtain ⟨-, -, hearlier⟩ := List.isChain_append.1 hpath
    obtain ⟨source', hsource'⟩ : ∃ source, source ∈ (name :: before).getLast? :=
      ⟨_, List.getLast?_eq_getLast_of_ne_nil (List.cons_ne_nil name before)⟩
    obtain rfl := hpatches.unique (hearlier source' hsource' extension rfl)
    have hothers := congrArg List.dropLast hsplit
    rw [List.dropLast_concat, List.dropLast_append_of_ne_nil (List.cons_ne_nil _ _)] at hothers
    rw [hothers]
    exact List.cons_subset_cons name (List.subset_append_left _ _) (List.mem_of_getLast? hsource')
  induction h with
  | single hpatches => exact hclosed name List.mem_cons_self _ hpatches
  | tail _ hpatches ih => exact hclosed _ ih _ hpatches

/-- On a cycle of patch sources there is a path along extensions that meets itself. -/
theorem OnPatchCycle.exists_path (h : LinkLog.Agrees registry log)
    (hcycle : registry.OnPatchCycle name) :
    ∃ ahead, (name :: ahead).IsChain registry.catalog.Extends ∧ name ∈ ahead := by
  have hregistered : (Entries.get? registry.catalog name).isSome := by
    obtain ⟨source, ⟨schema, hget, -⟩, -⟩ := Relation.TransGen.head'_iff.1 hcycle
    rw [hget]
    rfl
  have hforward : ∀ {extension},
      Relation.TransGen (Function.swap registry.Patches) name extension →
        Relation.TransGen registry.catalog.Extends name extension := by
    intro extension hpath
    induction hpath with
    | single hpatches => exact .single ((extends_iff h).2 ⟨hpatches, hregistered⟩)
    | tail hpath hpatches ih =>
      refine .tail ih ((extends_iff h).2 ⟨hpatches, ?_⟩)
      obtain ⟨source, -, schema, -, -, hmet⟩ := Relation.TransGen.tail'_iff.1 ih
      exact hmet
  obtain ⟨next, hstep, hrest⟩ :=
    Relation.TransGen.head'_iff.1 (hforward (Relation.transGen_swap.2 hcycle))
  obtain ⟨ahead, hchain, hlast⟩ := List.exists_isChain_cons_of_relationReflTransGen hrest
  exact ⟨next :: ahead, List.isChain_cons_cons.2 ⟨hstep, hchain⟩, hlast ▸ List.getLast_mem _⟩

/-- A path from a name around to it follows a cycle of patch sources. -/
theorem OnPatchCycle.of_path {others : List String}
    (hpath : (name :: (others ++ [name])).IsChain
      fun source extension => registry.Patches extension source) :
    registry.OnPatchCycle name := by
  obtain ⟨next, rest, hsplit⟩ := List.exists_cons_of_ne_nil (List.concat_ne_nil name others)
  rw [hsplit] at hpath
  obtain ⟨hstep, hrest⟩ := List.isChain_cons_cons.1 hpath
  have hlast : (next :: rest).getLast (List.cons_ne_nil next rest) = name := by
    simp [← hsplit]
  have hback := List.relationReflTransGen_of_exists_isChain_cons rest hrest hlast
  exact Relation.transGen_swap.1 (Relation.TransGen.head' hstep hback)

/-! ## Documents -/

theorem resolveDocument_registered {schema : Schema}
    (hget : Entries.get? registry.catalog name = some schema) :
    registry.resolveDocument name =
      registry.catalog.composeBelow (registry.catalog.length + 2) [] schema := by
  unfold resolveDocument Catalog.composeNamed
  rw [hget]
  rfl

/-- The failure of a registered name is the cycle of patch sources that it is on. -/
theorem resolveDocument_error (h : LinkLog.Agrees registry log)
    (hname : registry.contains name = true) {failure : Failure}
    (hfails : registry.resolveDocument name = .error failure) :
    ∃ others, failure = .circularExtension (name :: (others ++ [name])) ∧
      (name :: others).Nodup ∧
      (name :: (others ++ [name])).IsChain
        fun source extension => registry.Patches extension source := by
  obtain ⟨schema, hget⟩ := Option.isSome_iff_exists.1 hname
  rw [resolveDocument_registered hget] at hfails
  obtain rfl : schema.name = name := h.tidy.name_eq hget
  obtain ⟨ahead, rfl, hchain, hcloses⟩ := Catalog.composeBelow_error h.tidy.keyed List.nodup_nil
    (List.nil_subset _) (by simp) hget hfails
  have hpath := hchain.imp fun _ _ hextends => ((extends_iff h).1 hextends).1
  obtain ⟨others, rfl, honce⟩ := closes_at_start hpath hcloses
  exact ⟨others, rfl, honce, hpath⟩

/-- Nothing on a cycle composes. -/
theorem OnPatchCycle.resolveDocument_ne_ok (h : LinkLog.Agrees registry log)
    (hcycle : registry.OnPatchCycle name) (document : Value) :
    registry.resolveDocument name ≠ .ok document := by
  intro hok
  obtain ⟨ahead, hchain, hmem⟩ := hcycle.exists_path h
  obtain ⟨source, ⟨schema, hget, -⟩, -⟩ := Relation.TransGen.head'_iff.1 hcycle
  rw [resolveDocument_registered hget] at hok
  obtain rfl : schema.name = name := h.tidy.name_eq hget
  have honce := Catalog.composeBelow_ok_nodup h.tidy.keyed List.nodup_nil hget hok hchain
  exact (List.nodup_cons.1 honce).1 hmem

/-! ## Top theorem -/

/-- In every history, the document of a registered name fails to compose exactly if patch sources
lead from the name through registered schemas back to it. The chain of the failure is the cycle, once
around from the name: each name after the first patches the one before it, none but the first comes
twice, and all that patch sources lead to are in it. A schema that only patches one of a cycle, or
leads to one, composes. -/
theorem resolveDocument_fails_iff (settings : Settings) (directory : String)
    (operations : List Operation) (name : String)
    (hname : ((new settings directory).run operations).contains name = true) :
    let registry := (new settings directory).run operations
    ((∃ failure, registry.resolveDocument name = .error failure) ↔ registry.OnPatchCycle name) ∧
    (∀ failure, registry.resolveDocument name = .error failure →
      ∃ others, failure = .circularExtension (name :: (others ++ [name])) ∧
        (name :: others).Nodup ∧
        (name :: (others ++ [name])).IsChain
          (fun source extension => registry.Patches extension source) ∧
        ∀ other, Relation.TransGen registry.Patches name other → other ∈ name :: others) ∧
    (∀ member, registry.OnPatchCycle member → Relation.TransGen registry.Patches name member →
      ¬ registry.OnPatchCycle name → ∃ document, registry.resolveDocument name = .ok document) := by
  intro registry
  have h := LinkLog.agrees_ofHistory settings directory operations
  have hiff : (∃ failure, registry.resolveDocument name = .error failure) ↔
      registry.OnPatchCycle name := by
    constructor
    · rintro ⟨failure, hfails⟩
      obtain ⟨others, -, -, hpath⟩ := resolveDocument_error h hname hfails
      exact .of_path hpath
    · intro hcycle
      cases hresolve : registry.resolveDocument name with
      | error failure => exact ⟨failure, rfl⟩
      | ok document => exact absurd hresolve (hcycle.resolveDocument_ne_ok h document)
  refine ⟨hiff, fun failure hfails => ?_, fun member _ _ hfree => ?_⟩
  · obtain ⟨others, hfailure, honce, hpath⟩ := resolveDocument_error h hname hfails
    exact ⟨others, hfailure, honce, hpath, fun other hother => mem_of_transGen hpath hother⟩
  · cases hresolve : registry.resolveDocument name with
    | ok document => exact ⟨document, rfl⟩
    | error failure => exact absurd (hiff.1 ⟨failure, hresolve⟩) hfree

/-- Two schemas that patch each other fail, and a third one that patches one of them composes. -/
theorem resolveDocument_fails_iff_of_pair :
    let registry := (new {} "").run
      [.register (.document (extensionDocument "a" "b")) false,
        .register (.document (extensionDocument "b" "a")) false,
        .register (.document (extensionDocument "c" "a")) false]
    registry.resolveDocument "a" = .error (.circularExtension ["a", "b", "a"]) ∧
      registry.OnPatchCycle "a" ∧
      (∃ document, registry.resolveDocument "c" = .ok document) ∧
      ¬ registry.OnPatchCycle "c" := by
  intro registry
  have hfails : registry.resolveDocument "a" = .error (.circularExtension ["a", "b", "a"]) := rfl
  have hcomposes : ∃ document, registry.resolveDocument "c" = .ok document := ⟨_, rfl⟩
  have ha : registry.OnPatchCycle "a" :=
    (resolveDocument_fails_iff {} "" _ "a" (by decide +kernel)).1.1 ⟨_, hfails⟩
  have hc : ¬ registry.OnPatchCycle "c" := by
    intro hcycle
    obtain ⟨failure, hfailure⟩ :=
      (resolveDocument_fails_iff {} "" _ "c" (by decide +kernel)).1.2 hcycle
    obtain ⟨document, hdocument⟩ := hcomposes
    cases hfailure.symm.trans hdocument
  exact ⟨hfails, ha, hcomposes, hc⟩

end Schemata.Registry
