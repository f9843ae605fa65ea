import Schemata.Proofs.Registry.LinkLog

/-!
# The order of registrations

Schemas that are registered into a new registry, none replacing another, lead to the same registry
in every order that keeps the order of the extensions of each name. Whether an extension comes
before what it extends, and whether that ever comes, makes no difference.

    registered one by one, schemas are in the catalog, and the log has their links (registerAll_ok)
    registries that answer the views in the same way are the same                (schemas_eq_of_views)
    the same schemas, the same order per name → the same names, extensions, waiting
      extensions and documents                                        (registration_order_irrelevant)
-/

namespace Schemata

open Json (Value)

def Handle.schema? (handle : Handle) : Option Schema := handle.load.toOption

theorem Handle.schema?_of_load {handle : Handle} {schema : Schema}
    (h : handle.load = .ok schema) : handle.schema? = some schema := by
  unfold Handle.schema?
  rw [h]
  rfl

namespace Registry

/-! ## Algorithm -/

/-- A document with a name that does nothing but extend another one. -/
def extensionDocument (name source : String) : Value :=
  .object [("$id", .string name),
    ("$patch", .object [("source", .object [("$ref", .string source)])])]

/-- Registers the schemas of handles one after the other, and none in place of another. -/
def registerAll (registry : Registry) (handles : List Handle) : Except Failure Registry :=
  handles.foldlM (fun registry handle => (registry.registerLoaded handle.load false).map (·.2))
    registry

/-! ## Lemmas -/

variable {registry : Registry} {log : LinkLog}

theorem registerAll_cons_ok {handle : Handle} {schema : Schema} {after : Registry}
    (hload : handle.load = .ok schema) (hinsert : registry.insert schema false = .ok after)
    (handles : List Handle) :
    registry.registerAll (handle :: handles) = after.registerAll handles := by
  unfold registerAll registerLoaded
  rw [List.foldlM_cons, hload, ok_bind, hinsert]
  rfl

/-- Whether a schema counts as still to come or as entered makes no difference to what there is. -/
theorem loaded?_enter_or_mem {schemas : List Schema} {schema : Schema}
    (hloaded : schema.asLoaded = schema) (hfree : registry.loaded? schema.name = none)
    (hother : ∀ other ∈ schemas, other.name ≠ schema.name) (name : String) (other : Schema) :
    (other ∈ schemas ∧ other.name = name) ∨
        (registry.enter schema true).loaded? name = some other ↔
      (other ∈ schema :: schemas ∧ other.name = name) ∨ registry.loaded? name = some other := by
  rw [loaded?_enter, List.mem_cons, hloaded]
  by_cases hname : name = schema.name
  · rw [if_pos hname, hname, hfree]
    constructor
    · rintro (⟨hmem, heq⟩ | heq)
      · exact absurd heq (hother other hmem)
      · cases heq
        exact Or.inl ⟨Or.inl rfl, rfl⟩
    · rintro (⟨rfl | hmem, heq⟩ | heq)
      · exact Or.inr rfl
      · exact absurd heq (hother other hmem)
      · cases heq
  · rw [if_neg hname]
    constructor
    · rintro (⟨hmem, heq⟩ | heq)
      · exact Or.inl ⟨Or.inr hmem, heq⟩
      · exact Or.inr heq
    · rintro (⟨rfl | hmem, heq⟩ | heq)
      · exact absurd heq.symm hname
      · exact Or.inl ⟨hmem, heq⟩
      · exact Or.inr heq

/-- New names that extend others are registered in every order; the registry has their schemas then,
and their links are in the log in the order of registration. -/
theorem registerAll_ok (handles : List Handle) (h : LinkLog.Agrees registry log)
    (hloads : ∀ handle ∈ handles, ∃ schema, handle.load = .ok schema)
    (hnames : ((handles.filterMap Handle.schema?).map (·.name)).Nodup)
    (hnew : ∀ schema ∈ handles.filterMap Handle.schema?, registry.loaded? schema.name = none)
    (houtward : ∀ schema ∈ handles.filterMap Handle.schema?,
      schema.patchSource ≠ some schema.name)
    (hmemo : ∀ name, registry.memo? name = none) :
    ∃ after, registry.registerAll handles = .ok after ∧
      LinkLog.Agrees after (log ++ (handles.filterMap Handle.schema?).flatMap LinkLog.ofSchema) ∧
      (∀ name schema, after.loaded? name = some schema ↔
        (schema ∈ handles.filterMap Handle.schema? ∧ schema.name = name) ∨
          registry.loaded? name = some schema) ∧
      ∀ name, after.memo? name = none := by
  induction handles generalizing registry log with
  | nil => exact ⟨registry, rfl, by simpa using h, by simp, hmemo⟩
  | cons handle handles ih =>
    obtain ⟨schema, hload⟩ := hloads handle List.mem_cons_self
    obtain ⟨hextensions, hbare⟩ := Handle.load_bare hload
    have hschema := Handle.schema?_of_load hload
    have hloaded := Handle.load_asLoaded hload
    rw [List.filterMap_cons, hschema] at hnames hnew houtward ⊢
    dsimp only at hnames hnew houtward ⊢
    rw [List.map_cons, List.nodup_cons] at hnames
    have hfree := hnew schema List.mem_cons_self
    have hsource := houtward schema List.mem_cons_self
    have hinsert := insert_new hsource hfree false
    have hother : ∀ other ∈ handles.filterMap Handle.schema?, other.name ≠ schema.name :=
      fun other hmem heq => hnames.1 (heq ▸ List.mem_map.2 ⟨other, hmem, rfl⟩)
    obtain ⟨after, hall, hagrees, hafter, hmemo'⟩ :=
      ih (h.enter hfree hextensions hsource)
        (fun other hmem => hloads other (List.mem_cons_of_mem _ hmem)) hnames.2
        (fun other hmem => by
          rw [loaded?_enter, if_neg (hother other hmem)]
          exact hnew other (List.mem_cons_of_mem _ hmem))
        (fun other hmem => houtward other (List.mem_cons_of_mem _ hmem))
        (fun name => by
          cases hm : (registry.enter schema true).memo? name with
          | none => rfl
          | some memo =>
            have hold := memo?_enter hbare hm
            rw [hmemo] at hold
            cases hold)
    refine ⟨after, (registerAll_cons_ok hload hinsert handles).trans hall, ?_, ?_, hmemo'⟩
    · rw [List.flatMap_cons, ← List.append_assoc]
      exact hagrees
    · intro name other
      rw [hafter]
      exact loaded?_enter_or_mem hloaded hfree hother name other

/-- The links of schemas tie to a name those that extend it. -/
theorem extensionsOf_flatMap (schemas : List Schema) (source : String) :
    LinkLog.extensionsOf (schemas.flatMap LinkLog.ofSchema) source =
      (schemas.filter fun schema => schema.patchSource = some source).map (·.name) := by
  induction schemas with
  | nil => rfl
  | cons schema schemas ih =>
    rw [List.flatMap_cons, LinkLog.extensionsOf_append, LinkLog.extensionsOf_ofSchema, ih,
      List.filter_cons]
    by_cases h : schema.patchSource = some source <;> simp [h]

/-- Tidy registries that answer the views in the same way have the same schemas and the same
ledger. -/
theorem schemas_eq_of_views {a b : Registry} (ha : a.Tidy) (hb : b.Tidy)
    (hloaded : ∀ name, a.loaded? name = b.loaded? name)
    (hlinked : ∀ name, a.linked name = b.linked name)
    (hmemo : ∀ name, a.memo? name = b.memo? name) :
    a.catalog = b.catalog ∧ a.ledger = b.ledger := by
  constructor
  · refine ha.ascends.ext hb.ascends fun name => ?_
    have hl := hloaded name
    cases hget : Entries.get? a.catalog name with
    | none =>
      rw [loaded?_eq_none_iff.2 hget] at hl
      rw [loaded?_eq_none_iff.1 hl.symm]
    | some schema =>
      cases hget' : Entries.get? b.catalog name with
      | none =>
        rw [loaded?_eq_none_iff.2 hget'] at hl
        rw [loaded?_eq_none_iff.1 hl] at hget
        cases hget
      | some schema' =>
        have hk := hlinked name
        have hm := hmemo name
        rw [linked_of_some hget, linked_of_some hget'] at hk
        unfold memo? at hm
        rw [hget, hget'] at hm
        rw [loaded?_of_some hget, loaded?_of_some hget'] at hl
        -- a schema is what it was loaded as, with its extensions and what is kept for it
        cases schema
        cases schema'
        simp_all [Schema.asLoaded]
  · refine ha.ledger.ext hb.ledger fun name => ?_
    unfold Ledger.pendingFor
    rw [ha.get?_pending, hb.get?_pending, hloaded, hlinked]

/-! ## Top theorem -/

/-- Let handles give schemas with different names, none of which extends itself. Registered into a
new registry in two orders in which the extensions of each name follow each other in the same way,
they all get in, and the registries have the same names, the same extensions of every name, the same
waiting extensions, and for every name the same document or the same failure. -/
theorem registration_order_irrelevant (settings : Settings) (directory : String)
    (first second : List Handle) (hsame : first.Perm second)
    (hloads : ∀ handle ∈ first, ∃ schema, handle.load = .ok schema)
    (hnames : ((first.filterMap Handle.schema?).map (·.name)).Nodup)
    (houtward : ∀ schema ∈ first.filterMap Handle.schema?, schema.patchSource ≠ some schema.name)
    (horder : ∀ source,
      (first.filterMap Handle.schema?).filter (fun schema => schema.patchSource = some source) =
        (second.filterMap Handle.schema?).filter fun schema => schema.patchSource = some source) :
    ∃ a b, (new settings directory).registerAll first = .ok a ∧
      (new settings directory).registerAll second = .ok b ∧
      a.names = b.names ∧
      (∀ name, a.extensionsOf? name = b.extensionsOf? name) ∧
      a.ledger.pending = b.ledger.pending ∧
      ∀ name, a.resolveDocument name = b.resolveDocument name := by
  have hempty := sameSchemas_new settings directory
  have hnew : ∀ name, (new settings directory).loaded? name = none := hempty.loaded?
  have hmemo : ∀ name, (new settings directory).memo? name = none := by
    intro name
    unfold memo?
    rw [loaded?_eq_none_iff.1 (hnew name)]
    rfl
  have hschemas := hsame.filterMap Handle.schema?
  obtain ⟨a, ha, hagrees, hloaded, hma⟩ := registerAll_ok first
    (LinkLog.agrees_new settings directory) hloads hnames (fun schema _ => hnew schema.name)
    houtward hmemo
  obtain ⟨b, hb, hagrees', hloaded', hmb⟩ := registerAll_ok second
    (LinkLog.agrees_new settings directory)
    (fun handle hmem => hloads handle (hsame.mem_iff.2 hmem))
    ((hschemas.map (·.name)).nodup_iff.1 hnames) (fun schema _ => hnew schema.name)
    (fun schema hmem => houtward schema (hschemas.mem_iff.2 hmem)) hmemo
  have hviews : ∀ name, a.loaded? name = b.loaded? name := by
    intro name
    apply Option.ext
    intro schema
    rw [hloaded, hloaded', hschemas.mem_iff]
  have hties : ∀ name, a.linked name = b.linked name := by
    intro name
    rw [hagrees.linked, hagrees'.linked, List.nil_append, List.nil_append, extensionsOf_flatMap,
      extensionsOf_flatMap, horder]
  obtain ⟨hcatalog, hledger⟩ := schemas_eq_of_views hagrees.tidy hagrees'.tidy hviews hties
    fun name => (hma name).trans (hmb name).symm
  refine ⟨a, b, ha, hb, ?_, fun name => ?_, by rw [hledger], fun name => ?_⟩
  · unfold names
    rw [hcatalog]
  · unfold extensionsOf?
    rw [hcatalog]
  · unfold resolveDocument
    rw [hcatalog]

/-- One extension comes before or after what it extends, and another one behind both. -/
theorem registration_order_irrelevant_of_swap :
    ∃ a b, (new {} "").registerAll
        [.document (extensionDocument "notes" "course"),
          .document (.object [("$id", .string "course")]),
          .document (extensionDocument "marks" "course")] = .ok a ∧
      (new {} "").registerAll
        [.document (.object [("$id", .string "course")]),
          .document (extensionDocument "notes" "course"),
          .document (extensionDocument "marks" "course")] = .ok b ∧
      a.names = b.names ∧
      (∀ name, a.extensionsOf? name = b.extensionsOf? name) ∧
      a.ledger.pending = b.ledger.pending ∧
      ∀ name, a.resolveDocument name = b.resolveDocument name := by
  have hnotes : (Handle.document (extensionDocument "notes" "course")).load =
      .ok ⟨"notes", extensionDocument "notes" "course", none, some "course", [], none⟩ := by rfl
  have hmarks : (Handle.document (extensionDocument "marks" "course")).load =
      .ok ⟨"marks", extensionDocument "marks" "course", none, some "course", [], none⟩ := by rfl
  have hcourse : (Handle.document (.object [("$id", .string "course")])).load =
      .ok ⟨"course", .object [("$id", .string "course")], none, none, [], none⟩ := by rfl
  have hnotes' := Handle.schema?_of_load hnotes
  have hmarks' := Handle.schema?_of_load hmarks
  have hcourse' := Handle.schema?_of_load hcourse
  apply registration_order_irrelevant {} "" _ _ (List.Perm.swap _ _ _)
  · simp [hnotes, hmarks, hcourse]
  · simp only [List.filterMap_cons, hnotes', hmarks', hcourse']
    decide
  · simp [hnotes', hmarks', hcourse']
  · intro source
    -- the two that extend the same name stand in the same order in both lists
    simp [hnotes', hmarks', hcourse', List.filter_cons]

end Registry

end Schemata
