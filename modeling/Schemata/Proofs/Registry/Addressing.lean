import Mathlib.Data.List.TakeWhile
import Schemata.Proofs.Bundle.Completion
import Schemata.Proofs.Registry.PatchCycles
import Schemata.Proofs.Registry.Identity

/-!
# Addressing schemas by name

A schema takes its name from its document or its file as it stands, and a reference is cut at its
first `#` to get the name that it is for. A name without that sign is its own address: a reference
to it leads to its schema, and a patch for it is attached there. A name with the sign is the address
of nothing: no reference and no patch is for it, although it is registered like any other.

    Text.before c text = text ↔ c ∉ text.toList                             (Text.before_eq_self_iff)
    no document needs a schema with '#' in its name                          (Needs.hash_not_mem)
    no patch is for a schema with '#' in its name            (Schema.hash_not_mem_patchSourceOf)
    a registered name can be bundled ↔ it can be patched ↔ it is without '#'      (addressable_iff)
-/

namespace Schemata

open Json (Value)

/-! ## Cutting -/

theorem Text.not_mem_before (c : Char) (text : String) : c ∉ (Text.before c text).toList := by
  unfold Text.before
  rw [String.toList_ofList]
  intro hmem
  simpa using List.mem_takeWhile_imp hmem

/-- A text is cut at a character if and only if the character is in it. -/
theorem Text.before_eq_self_iff {c : Char} {text : String} :
    Text.before c text = text ↔ c ∉ text.toList := by
  constructor
  · intro h
    rw [← h]
    exact Text.not_mem_before c text
  · intro h
    unfold Text.before
    rw [List.takeWhile_eq_self_iff.2, String.ofList_toList]
    rintro d hd
    exact decide_eq_true (by rintro rfl; exact h hd)

theorem Text.behind_of_not_mem {c : Char} {text : String} (h : c ∉ text.toList) :
    Text.behind c text = "" := by
  have hdrop : text.toList.dropWhile (· ≠ c) = [] :=
    List.dropWhile_eq_nil_iff.2 fun d hd => decide_eq_true (by rintro rfl; exact h hd)
  unfold Text.behind
  rw [hdrop]
  rfl

namespace Bundle

variable {rootName : String} {document : Value} {resolver : Resolver} {name : String}

theorem hash_not_mem_foreignTargets {references : List String} {target : String}
    (h : target ∈ foreignTargets rootName references) : '#' ∉ target.toList := by
  obtain ⟨reference, -, rfl⟩ := List.mem_map.1 (List.mem_filter.1 h).1
  exact Text.not_mem_before '#' reference

/-- No document needs a schema whose name has the sign at which references are cut. -/
theorem Needs.hash_not_mem (h : Needs rootName document resolver name) : '#' ∉ name.toList := by
  cases h with
  | asked hstart => exact hash_not_mem_foreignTargets hstart
  | copied _ _ htarget => exact hash_not_mem_foreignTargets htarget

end Bundle

namespace Schema

/-! ## Names and patch sources -/

theorem nameFromPath?_ne_empty {path name : String} (h : nameFromPath? path = some name) :
    name ≠ "" := by
  unfold nameFromPath? at h
  obtain ⟨file, -, h⟩ := Option.bind_eq_some_iff.1 h
  dsimp only at h
  split at h
  · cases h
  · next hne =>
    cases h
    intro hempty
    exact hne (String.isEmpty_iff.2 hempty)

/-- No schema has the empty name. -/
theorem nameOf_ne_empty {members : List (String × Value)} {source : Option String} {name : String}
    (h : nameOf members source = .ok name) : name ≠ "" := by
  unfold nameOf at h
  split at h
  · split at h
    · cases h
    · next hblank =>
      cases h
      rintro rfl
      exact hblank rfl
  · cases h
  · split at h
    · next hpath =>
      cases h
      obtain ⟨path, -, hpath⟩ := Option.bind_eq_some_iff.1 hpath
      exact nameFromPath?_ne_empty hpath
    · cases h

/-- A patch is for what stands before the first `#` of its reference. -/
theorem patchSourceOf_declared {members : List (String × Value)} {patch : Value}
    {reference : String} (hpatch : Entries.get? members "$patch" = some patch)
    (hreference : patch.at? "/source/$ref" = some (.string reference)) :
    patchSourceOf (.object members) =
      if (Text.before '#' reference).isEmpty then .error "$patch.source.$ref does not name a schema"
      else .ok (some (Text.before '#' reference)) := by
  unfold patchSourceOf
  rw [show (Value.object members).member? "$patch" = some patch from hpatch]
  dsimp only
  rw [hreference]

theorem hash_not_mem_patchSourceOf {document : Value} {source : String}
    (h : patchSourceOf document = .ok (some source)) : '#' ∉ source.toList := by
  unfold patchSourceOf at h
  split at h
  · cases h
  · split at h
    · next reference _ =>
      dsimp only at h
      split at h
      · cases h
      · cases h
        exact Text.not_mem_before '#' reference
    · cases h

/-- What a document declares is what its schema has. -/
theorem ofDocument_declared {document : Value} {source : Option String} {schema : Schema}
    (h : ofDocument document source = .ok schema) :
    ∃ members, document = .object members ∧ nameOf members source = .ok schema.name ∧
      patchSourceOf document = .ok schema.patchSource := by
  obtain ⟨members, patchSource, rfl, hname, heq⟩ := ofDocument_ok h
  refine ⟨members, rfl, hname, ?_⟩
  unfold ofDocument at h
  dsimp only at h
  rw [hname, ok_bind] at h
  cases hsource : patchSourceOf (.object members) with
  | error reason => rw [hsource] at h; cases h
  | ok declared =>
    rw [hsource] at h
    rw [← Except.ok.inj h]

end Schema

/-- The document of a handle has a name, and its patch is for a reference. -/
def Handle.Declares (handle : Handle) (name reference : String) : Prop :=
  ∃ members source patch, handle.load = Schema.ofDocument (.object members) source ∧
    Schema.nameOf members source = .ok name ∧
    Entries.get? members "$patch" = some patch ∧
    patch.at? "/source/$ref" = some (.string reference)

/-- A declared patch for a name without `#` is loaded as one for that name. -/
theorem Handle.Declares.load {handle : Handle} {name reference : String}
    (h : handle.Declares name reference) (hne : reference ≠ "") (hhash : '#' ∉ reference.toList) :
    ∃ schema, handle.load = .ok schema ∧ schema.name = name ∧
      schema.patchSource = some reference := by
  obtain ⟨members, source, patch, hload, hname, hpatch, hreference⟩ := h
  have hsource := Schema.patchSourceOf_declared hpatch hreference
  rw [Text.before_eq_self_iff.2 hhash, if_neg (mt String.isEmpty_iff.1 hne)] at hsource
  refine ⟨⟨name, .object members, source, some reference, [], none⟩, ?_, rfl, rfl⟩
  rw [hload]
  unfold Schema.ofDocument
  dsimp only
  rw [hname, ok_bind, hsource]

namespace Registry

/-! ## Algorithm -/

/-- What a document with a reference to a name needs can be composed: the schema of the name, those
that the other references of the document are for, and all that these reach. -/
def Resolvable (registry : Registry) (rootName : String) (document : Value) (name : String) : Prop :=
  ∀ needed, Bundle.Reached rootName registry.catalog.resolver
      (name :: Bundle.foreignTargets rootName
        ((Bundle.visited (Bundle.bundleSource document)).filter (· ≠ name))) needed →
    ∃ merged, registry.resolveDocument needed = .ok merged

/-- Bundling a document succeeds, and its `$ref` is turned to a copy of the composed document of a
name. -/
def BundlesRef (registry : Registry) (rootName : String) (document : Value) (name : String) : Prop :=
  ∃ out key merged, bundle rootName document registry.catalog.resolver = .ok out ∧
    Bundle.IsBundle rootName document registry.catalog.resolver key out ∧
    Bundle.Needs rootName document registry.catalog.resolver name ∧
    registry.resolveDocument name = .ok merged ∧
    out.member? "$ref" = some (.string ("#/$defs/" ++ Json.escapeStep (key name))) ∧
    Bundle.definition? out (key name) = some (Bundle.mapReferences
      (Bundle.turn rootName key (some (key name))) (Bundle.copySource merged))

/-- Registering a handle succeeds, and its schema is then among the extensions of a name: where it
was before, or else behind the others. -/
def Attaches (registry : Registry) (handle : Handle) (replace : Bool) (extension name : String) :
    Prop :=
  ∃ after extensions, registry.registerLoaded handle.load replace = .ok (extension, after) ∧
    registry.extensionsOf? name = some extensions ∧
    after.extensionsOf? name =
      some (if extension ∈ extensions then extensions else extensions ++ [extension])

variable {registry : Registry} {log : LinkLog} {name other : String}

/-! ## References to a name -/

theorem foreignTargets_subset {references : List String} (hhash : '#' ∉ name.toList) :
    Bundle.foreignTargets other references ⊆
      name :: Bundle.foreignTargets other (references.filter (· ≠ name)) := by
  intro target htarget
  obtain ⟨hmem, hforeign⟩ := List.mem_filter.1 htarget
  obtain ⟨reference, hreference, rfl⟩ := List.mem_map.1 hmem
  by_cases hname : reference = name
  · rw [hname, Text.before_eq_self_iff.2 hhash]
    exact List.mem_cons_self
  · refine List.mem_cons_of_mem _ (List.mem_filter.2 ⟨List.mem_map_of_mem ?_, hforeign⟩)
    exact List.mem_filter.2 ⟨hreference, decide_eq_true hname⟩

theorem needs_of_ref (hhash : '#' ∉ name.toList) (hname : name ≠ "") (hother : other ≠ name)
    {document : Value} (htakes : Bundle.TakesCopies document)
    (href : document.member? "$ref" = some (.string name)) (resolver : Resolver) :
    Bundle.Needs other document resolver name := by
  obtain ⟨members, rfl, -⟩ := htakes
  have hmember : Entries.get? (Entries.without members "$id") "$ref" = some (.string name) := by
    rw [Entries.get?_without, if_neg (by decide)]
    exact href
  have hvisited : name ∈ Bundle.visited (Bundle.bundleSource (.object members)) :=
    Bundle.mem_visitedMembers.2 ⟨_, Entries.mem_of_get? hmember, List.mem_singleton_self name⟩
  refine .asked (List.mem_filter.2 ⟨List.mem_map.2 ⟨name, hvisited, ?_⟩, ?_⟩)
  · exact Text.before_eq_self_iff.2 hhash
  · exact Bundle.isForeign_iff.2 ⟨by simpa using hname, hother.symm⟩

theorem turn_name (hhash : '#' ∉ name.toList) (hname : name ≠ "") (hother : other ≠ name)
    (key : String → String) :
    Bundle.turn other key none name = "#/$defs/" ++ Json.escapeStep (key name) := by
  unfold Bundle.turn
  dsimp only
  rw [Text.before_eq_self_iff.2 hhash, Text.behind_of_not_mem hhash,
    if_neg (mt String.isEmpty_iff.1 hname), if_neg hother.symm]
  unfold Bundle.referenceInto
  rw [if_pos (Or.inl (by decide)), String.append_empty]

theorem mem_names_of_resolveDocument {merged : Value}
    (h : registry.resolveDocument name = .ok merged) : name ∈ registry.catalog.resolver.names := by
  have hget : Entries.get? registry.catalog name ≠ none := by
    intro hnone
    unfold resolveDocument Catalog.composeNamed at h
    rw [hnone] at h
    cases h
  exact (Entries.get?_isSome_iff registry.catalog name).1 (Option.isSome_iff_ne_none.2 hget)

/-- A document whose `$ref` is a name without `#` has a bundle with the schema of the name. -/
theorem bundlesRef_of_resolvable (hhash : '#' ∉ name.toList) (hname : name ≠ "")
    (hother : other ≠ name) {document : Value} (htakes : Bundle.TakesCopies document)
    (href : document.member? "$ref" = some (.string name))
    (hresolvable : registry.Resolvable other document name) :
    registry.BundlesRef other document name := by
  have hneeds := needs_of_ref hhash hname hother htakes href registry.catalog.resolver
  obtain ⟨out, hout⟩ : ∃ out, bundle other document registry.catalog.resolver = .ok out := by
    refine Bundle.bundle_ok_iff.2 fun needed hneeded => ?_
    obtain ⟨merged, hmerged⟩ := hresolvable needed
      (hneeded.trans fun target htarget => .asked (foreignTargets_subset hhash htarget))
    exact ⟨mem_names_of_resolveDocument hmerged, merged, hmerged⟩
  obtain ⟨key, hbundle⟩ := Bundle.isBundle_of_bundle htakes hout
  obtain ⟨merged, hmerged, hcopy⟩ := hbundle.copies name hneeds
  refine ⟨out, key, merged, hout, hbundle, hneeds, hmerged, ?_, hcopy⟩
  rw [hbundle.members "$ref" (by decide), if_neg (by decide), href,
    ← turn_name hhash hname hother key]
  rfl

/-! ## Patches for a name -/

/-- A registration succeeds unless the schema extends itself, or its name is taken and not to be
replaced. -/
theorem exists_insert {schema : Schema} {replace : Bool}
    (houtward : schema.patchSource ≠ some schema.name)
    (hreplace : registry.contains schema.name = true → replace = true) :
    ∃ after, registry.insert schema replace = .ok after := by
  unfold insert
  rw [if_neg houtward]
  cases hget : Entries.get? registry.catalog schema.name with
  | none => exact ⟨_, rfl⟩
  | some existing =>
    have hcontains : registry.contains schema.name = true := by
      unfold contains Entries.hasKey
      rw [hget]
      rfl
    dsimp only
    rw [hreplace hcontains, if_neg (not_not_intro rfl)]
    exact ⟨_, rfl⟩

theorem extensionsOf?_eq (hregistered : registry.loaded? name ≠ none) :
    registry.extensionsOf? name = some (registry.linked name) := by
  obtain ⟨schema, hget⟩ := Option.ne_none_iff_exists'.1 (mt loaded?_eq_none_iff.2 hregistered)
  unfold extensionsOf?
  rw [hget, linked_of_some hget]
  rfl

/-- A registered schema is tied to the one that it extends: where it was before, or else behind the
others. -/
theorem linked_insert (h : LinkLog.Agrees registry log) {schema : Schema} {replace : Bool}
    {after : Registry} (hbare : schema.extensions = []) {source : String}
    (hsource : schema.patchSource = some source)
    (hinsert : registry.insert schema replace = .ok after) :
    after.linked source =
      if schema.name ∈ registry.linked source then registry.linked source
      else registry.linked source ++ [schema.name] := by
  have hmem : schema.name ∈ registry.linked source ↔
      (registry.loaded? schema.name).bind (·.patchSource) = some source := by
    rw [h.linked, LinkLog.mem_extensionsOf, h.links]
  rw [(h.insert hbare hinsert).linked]
  unfold LinkLog.registered
  cases hget : Entries.get? registry.catalog schema.name with
  | none =>
    rw [if_neg (by rw [hmem, loaded?_eq_none_iff.2 hget]; simp), h.linked]
    dsimp only
    rw [LinkLog.extensionsOf_append, LinkLog.extensionsOf_ofSchema, if_pos hsource]
  | some existing =>
    rw [loaded?_of_some hget] at hmem
    dsimp only
    by_cases hkeeps : existing.patchSource = schema.patchSource
    · rw [if_pos hkeeps, if_pos (hmem.2 (hkeeps.trans hsource)), h.linked]
    · have hnot : schema.name ∉ registry.linked source := fun hlinked =>
        hkeeps ((hmem.1 hlinked).trans hsource.symm)
      rw [if_neg hkeeps, if_neg hnot, LinkLog.extensionsOf_append, LinkLog.extensionsOf_ofSchema,
        if_pos hsource, LinkLog.extensionsOf_strike, ← h.linked]
      rw [List.filter_eq_self.2 fun extension hextension => decide_eq_true ?_]
      rintro rfl
      exact hnot hextension

/-- A patch for a registered name without `#` is attached to the name. -/
theorem attaches_of_declares (h : LinkLog.Agrees registry log) (hhash : '#' ∉ name.toList)
    (hname : name ≠ "") (hother : other ≠ name) (hregistered : registry.loaded? name ≠ none)
    {handle : Handle} {replace : Bool} (hdeclares : handle.Declares other name)
    (hreplace : registry.contains other = true → replace = true) :
    registry.Attaches handle replace other name := by
  obtain ⟨schema, hload, rfl, hsource⟩ := hdeclares.load hname hhash
  have houtward : schema.patchSource ≠ some schema.name := by
    rw [hsource]
    exact fun heq => hother (Option.some.inj heq).symm
  obtain ⟨after, hinsert⟩ := exists_insert houtward hreplace
  have hafter : after.loaded? name ≠ none := by
    rw [loaded?_insert h.tidy hinsert, if_neg hother.symm]
    exact hregistered
  refine ⟨after, registry.linked name, registerLoaded_eq_ok_iff.2 ⟨schema, hload, rfl, hinsert⟩,
    extensionsOf?_eq hregistered, ?_⟩
  rw [extensionsOf?_eq hafter, linked_insert h (Handle.load_bare hload).1 hsource hinsert]

/-- In every history, a name with `#` has no extensions, and none wait for it. -/
theorem linked_eq_nil_of_hash (settings : Settings) (directory : String) (history : List Operation)
    (hhash : '#' ∈ name.toList) : ((new settings directory).run history).linked name = [] := by
  refine List.eq_nil_iff_forall_not_mem.2 fun extension hmem => ?_
  have h := LinkLog.agrees_ofHistory settings directory history
  rw [h.linked, LinkLog.mem_extensionsOf, h.links] at hmem
  obtain ⟨schema, hloaded, hsource⟩ := Option.bind_eq_some_iff.1 hmem
  obtain ⟨handle, hload⟩ := exists_handle_run settings directory history hloaded
  obtain ⟨document, source, hdocument⟩ := Handle.load_ok hload
  obtain ⟨members, -, -, hdeclared⟩ := Schema.ofDocument_declared hdocument
  rw [hsource] at hdeclared
  exact Schema.hash_not_mem_patchSourceOf hdeclared hhash

theorem not_attaches_of_hash (settings : Settings) (directory : String) (history : List Operation)
    (hhash : '#' ∈ name.toList) (handle : Handle) (replace : Bool) :
    ¬ ((new settings directory).run history).Attaches handle replace other name := by
  rintro ⟨after, extensions, hregister, hbefore, hafter⟩
  have hrun : after = (new settings directory).run (history ++ [.register handle replace]) := by
    rw [run_append, run_cons, run_nil]
    show after = Registry.after _ _
    rw [hregister, after_ok]
  have hnil : ∀ {registry : Registry} {extensions : List String}, registry.linked name = [] →
      registry.extensionsOf? name = some extensions → extensions = [] := by
    intro registry extensions hlinked hextensions
    obtain ⟨schema, hget, rfl⟩ := Option.map_eq_some_iff.1 hextensions
    exact (linked_of_some hget).symm.trans hlinked
  have hempty := hnil (linked_eq_nil_of_hash settings directory history hhash) hbefore
  have hfull := hnil (hrun ▸ linked_eq_nil_of_hash settings directory _ hhash) hafter
  rw [hempty] at hfull
  simp at hfull

/-! ## Top theorem -/

/-- In every history, a registered name without `#` is the address of its schema, and one with `#` is
the address of nothing. A document whose `$ref` is the name has a bundle with the composed document
of the name, to which the `$ref` is turned, and a schema that declares a patch for the name is
attached to it, if and only if the name is without `#`. With the sign no document at all needs the
schema, and it has no extensions. -/
theorem addressable_iff (settings : Settings) (directory : String) (history : List Operation)
    {name other : String} (hname : ((new settings directory).run history).contains name = true)
    (hother : other ≠ name) :
    let registry := (new settings directory).run history
    (∀ document, Bundle.TakesCopies document → document.member? "$ref" = some (.string name) →
      registry.Resolvable other document name →
      (registry.BundlesRef other document name ↔ '#' ∉ name.toList)) ∧
    (∀ handle replace, handle.Declares other name →
      (registry.contains other = true → replace = true) →
      (registry.Attaches handle replace other name ↔ '#' ∉ name.toList)) ∧
    ('#' ∈ name.toList →
      (∀ rootName document, ¬ Bundle.Needs rootName document registry.catalog.resolver name) ∧
      registry.extensionsOf? name = some []) := by
  intro registry
  have h := LinkLog.agrees_ofHistory settings directory history
  have hregistered : registry.loaded? name ≠ none := hasKey_iff_loaded?.1 hname
  have hempty : name ≠ "" := by
    obtain ⟨schema, hloaded⟩ := Option.ne_none_iff_exists'.1 hregistered
    obtain ⟨handle, hload⟩ := exists_handle_run settings directory history hloaded
    obtain ⟨document, source, hdocument⟩ := Handle.load_ok hload
    obtain ⟨members, -, hnamed, -⟩ := Schema.ofDocument_declared hdocument
    rw [← h.tidy.named name schema hloaded]
    exact Schema.nameOf_ne_empty hnamed
  refine ⟨fun document htakes href hresolvable => ⟨?_, fun hhash => ?_⟩,
    fun handle replace hdeclares hreplace => ⟨fun hattaches hhash => ?_, fun hhash => ?_⟩,
    fun hhash => ⟨fun rootName document hneeds => hneeds.hash_not_mem hhash, ?_⟩⟩
  · rintro ⟨-, -, -, -, -, hneeds, -⟩
    exact hneeds.hash_not_mem
  · exact bundlesRef_of_resolvable hhash hempty hother htakes href hresolvable
  · exact not_attaches_of_hash settings directory history hhash handle replace hattaches
  · exact attaches_of_declares h hhash hempty hother hregistered hdeclares hreplace
  · rw [extensionsOf?_eq hregistered, linked_eq_nil_of_hash settings directory history hhash]

/-- An address whose identity ends in the sign. A home does not find it, and a flat that patches it
waits for another name. -/
theorem addressable_iff_of_anchored :
    let address : Value := .object [("$id", .string "address#"), ("type", .string "object")]
    let home : Value := .object [("$ref", .string "address#")]
    let flat : Handle := .document (extensionDocument "flat" "address#")
    let registry := (new {} "").run [.register (.document address) false]
    registry.contains "address#" = true ∧
      registry.Resolvable "home" home "address#" ∧ ¬ registry.BundlesRef "home" home "address#" ∧
      bundle "home" home registry.catalog.resolver = .error (.schemaNotFound "address") ∧
      flat.Declares "flat" "address#" ∧ ¬ registry.Attaches flat false "flat" "address#" ∧
      (registry.perform (.register flat false)).ledger = ⟨[("address", ["flat"])]⟩ := by
  intro address home flat registry
  have hname : registry.contains "address#" = true := by decide +kernel
  have hhash : '#' ∈ "address#".toList := by decide
  have haddress : registry.catalog.resolver.resolve "address#" = .ok address := rfl
  have hresolvable : registry.Resolvable "home" home "address#" := by
    intro needed hneeded
    have hself : needed = "address#" := by
      induction hneeded with
      | asked hstart => exact List.mem_singleton.1 hstart
      | copied _ hresolve htarget ih =>
        subst ih
        rw [haddress] at hresolve
        cases hresolve
        cases htarget
    rw [hself]
    exact ⟨address, haddress⟩
  have hdeclares : flat.Declares "flat" "address#" := ⟨_, none, _, rfl, rfl, rfl, rfl⟩
  obtain ⟨hbundles, -⟩ := @addressable_iff {} "" [.register (.document address) false]
    "address#" "home" hname (by decide)
  obtain ⟨-, hattaches, -⟩ := @addressable_iff {} "" [.register (.document address) false]
    "address#" "flat" hname (by decide)
  have htakes : Bundle.TakesCopies home := ⟨_, rfl, fun defs hdefs => nomatch hdefs⟩
  exact ⟨hname, hresolvable, fun h => (hbundles home htakes rfl hresolvable).1 h hhash, rfl,
    hdeclares, fun h => (hattaches flat false hdeclares (by decide +kernel)).1 h hhash,
    by decide +kernel⟩

end Registry

end Schemata
