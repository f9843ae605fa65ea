import Schemata.Registry
import Schemata.Proofs.Ledger.Tidy
import Schemata.Proofs.Outcomes

/-!
# Views of a registry

A registry seen through three questions: which schema a name was loaded with, which extensions are
tied to a name (in the schema, or among those that wait), and what is kept compiled for a name. Each
part of a registration is stated as what it does to the three answers.

    (registry.linkExtension s e).linked n = if n = s then linked n ++ [e] else linked n
    (registry.place schema).linked n      = linked n
    (registry.takeOut name).linked n      = if n = name then [] else linked n
    (registry.unlink schema).linked n     = linked n, without the schema
    (registry.park schema).linked n       = if n = schema.name then linked n ++ waiting else linked n
-/

namespace Schemata

/-- A schema without extensions and with nothing compiled, as loading gives it. -/
def Schema.asLoaded (schema : Schema) : Schema := { schema with extensions := [], memo := none }

namespace Schema

theorem addExtension_of_new {schema : Schema} {extension : String}
    (hnew : extension ∉ schema.extensions) :
    schema.addExtension extension =
      { schema with extensions := schema.extensions ++ [extension], memo := none } := by
  simp [addExtension, hnew]

@[simp] theorem addExtension_asLoaded (schema : Schema) (extension : String) :
    (schema.addExtension extension).asLoaded = schema.asLoaded := by
  unfold addExtension
  split <;> rfl

@[simp] theorem removeExtension_asLoaded (schema : Schema) (extension : String) :
    (schema.removeExtension extension).asLoaded = schema.asLoaded := by
  unfold removeExtension
  split <;> rfl

theorem removeExtension_extensions (schema : Schema) (extension : String) :
    (schema.removeExtension extension).extensions =
      schema.extensions.filter (· ≠ extension) := by
  unfold removeExtension
  split
  · rfl
  · next h =>
    refine (List.filter_eq_self.2 fun other hother => ?_).symm
    simp only [List.contains_iff_mem] at h
    exact decide_eq_true fun heq => h (heq ▸ hother)

theorem memo_addExtension {schema : Schema} {extension : String} {memo : Memo}
    (h : (schema.addExtension extension).memo = some memo) : schema.memo = some memo := by
  unfold addExtension at h
  split at h
  · exact h
  · cases h

theorem memo_removeExtension {schema : Schema} {extension : String} {memo : Memo}
    (h : (schema.removeExtension extension).memo = some memo) : schema.memo = some memo := by
  unfold removeExtension at h
  split at h
  · cases h
  · exact h

/-- Extensions that are new, and no two of them alike, are added in their order. -/
theorem foldl_addExtension (extensions : List String) (schema : Schema)
    (hnew : (schema.extensions ++ extensions).Nodup) :
    (extensions.foldl addExtension schema).extensions = schema.extensions ++ extensions := by
  induction extensions generalizing schema with
  | nil => simp
  | cons extension extensions ih =>
    have hnot : extension ∉ schema.extensions := by
      intro hmem
      exact (List.nodup_append.1 hnew).2.2 extension hmem extension List.mem_cons_self rfl
    rw [List.foldl_cons, addExtension_of_new hnot, ih]
    · simp
    · simpa using hnew

@[simp] theorem foldl_addExtension_asLoaded (extensions : List String) (schema : Schema) :
    (extensions.foldl addExtension schema).asLoaded = schema.asLoaded := by
  induction extensions generalizing schema with
  | nil => rfl
  | cons extension extensions ih => rw [List.foldl_cons, ih, addExtension_asLoaded]

theorem memo_foldl_addExtension {extensions : List String} {schema : Schema} {memo : Memo}
    (h : (extensions.foldl addExtension schema).memo = some memo) : schema.memo = some memo := by
  induction extensions generalizing schema with
  | nil => exact h
  | cons extension extensions ih => exact memo_addExtension (ih h)

end Schema

namespace Registry

/-! ## Algorithm -/

def loaded? (registry : Registry) (name : String) : Option Schema :=
  (Entries.get? registry.catalog name).map Schema.asLoaded

/-- The extensions that are tied to a name: those of its schema, or those that wait for one. -/
def linked (registry : Registry) (name : String) : List String :=
  match Entries.get? registry.catalog name with
  | some schema => schema.extensions
  | none => registry.ledger.pendingFor name

/-- What is kept compiled for a name. -/
def memo? (registry : Registry) (name : String) : Option Memo :=
  (Entries.get? registry.catalog name).bind (·.memo)

/-- The catalog ascends, schemas are kept under their names and extend others than themselves, and
what waits waits for a name that is not registered. -/
structure Tidy (registry : Registry) : Prop where
  ascends : Entries.Ascending registry.catalog
  named : ∀ name schema, registry.loaded? name = some schema → schema.name = name
  outward : ∀ name schema, registry.loaded? name = some schema → schema.patchSource ≠ some name
  drained : ∀ name, registry.loaded? name ≠ none →
    Entries.get? registry.ledger.pending name = none
  ledger : registry.ledger.Tidy

/-! ## Lemmas -/

variable {registry : Registry}

theorem linked_of_some {name : String} {schema : Schema}
    (hget : Entries.get? registry.catalog name = some schema) :
    registry.linked name = schema.extensions := by
  unfold linked; rw [hget]

theorem linked_of_none {name : String} (hget : Entries.get? registry.catalog name = none) :
    registry.linked name = registry.ledger.pendingFor name := by
  unfold linked; rw [hget]

theorem loaded?_of_some {name : String} {schema : Schema}
    (hget : Entries.get? registry.catalog name = some schema) :
    registry.loaded? name = some schema.asLoaded := by
  unfold loaded?; rw [hget]; rfl

theorem loaded?_eq_none_iff {name : String} :
    registry.loaded? name = none ↔ Entries.get? registry.catalog name = none :=
  Option.map_eq_none_iff

theorem hasKey_iff_loaded? {name : String} :
    Entries.hasKey registry.catalog name = true ↔ registry.loaded? name ≠ none := by
  rw [Ne, loaded?_eq_none_iff, Entries.hasKey, Option.isSome_iff_ne_none]

namespace Tidy

theorem name_eq (h : registry.Tidy) {name : String} {schema : Schema}
    (hget : Entries.get? registry.catalog name = some schema) : schema.name = name :=
  h.named name schema.asLoaded (loaded?_of_some hget)

theorem source_ne (h : registry.Tidy) {name : String} {schema : Schema}
    (hget : Entries.get? registry.catalog name = some schema) : schema.patchSource ≠ some name :=
  h.outward name schema.asLoaded (loaded?_of_some hget)

theorem pendingFor_eq_nil (h : registry.Tidy) {name : String} {schema : Schema}
    (hget : Entries.get? registry.catalog name = some schema) :
    registry.ledger.pendingFor name = [] := by
  unfold Ledger.pendingFor
  rw [h.drained name (by rw [loaded?_of_some hget]; simp)]
  rfl

/-- The ledger knows what is tied to the names that are not registered, and nothing else. -/
theorem get?_pending (h : registry.Tidy) (name : String) :
    Entries.get? registry.ledger.pending name =
      if registry.loaded? name = none ∧ registry.linked name ≠ [] then some (registry.linked name)
      else none := by
  cases hget : Entries.get? registry.catalog name with
  | some schema =>
    rw [h.drained name (by rw [loaded?_of_some hget]; simp), loaded?_of_some hget]
    simp
  | none =>
    rw [linked_of_none hget, loaded?_eq_none_iff.2 hget, h.ledger.get?_pending]
    by_cases hnil : registry.ledger.pendingFor name = [] <;> simp [hnil]

end Tidy

/-! ### Tying -/

theorem loaded?_linkExtension (source extension name : String) :
    (registry.linkExtension source extension).loaded? name = registry.loaded? name := by
  unfold linkExtension loaded?
  cases hbase : Entries.get? registry.catalog source with
  | none => rfl
  | some base =>
    dsimp only
    rw [Entries.get?_put]
    split
    · next h => rw [h, hbase]; simp
    · rfl

theorem linked_linkExtension {source extension : String}
    (hnew : extension ∉ registry.linked source) (name : String) :
    (registry.linkExtension source extension).linked name =
      if name = source then registry.linked name ++ [extension] else registry.linked name := by
  unfold linkExtension
  cases hbase : Entries.get? registry.catalog source with
  | none =>
    dsimp only [linked]
    cases hget : Entries.get? registry.catalog name with
    | some schema =>
      have hne : name ≠ source := by rintro rfl; rw [hbase] at hget; cases hget
      rw [if_neg hne]
    | none => exact Ledger.pendingFor_defer registry.ledger source extension name
  | some base =>
    rw [linked_of_some hbase] at hnew
    dsimp only [linked]
    rw [Entries.get?_put]
    by_cases h : name = source
    · rw [if_pos h, if_pos h, h, hbase, Schema.addExtension_of_new hnew]
    · rw [if_neg h, if_neg h]

theorem memo?_linkExtension {source extension name : String} {memo : Memo}
    (h : (registry.linkExtension source extension).memo? name = some memo) :
    registry.memo? name = some memo := by
  unfold linkExtension memo? at *
  cases hbase : Entries.get? registry.catalog source with
  | none => rw [hbase] at h; exact h
  | some base =>
    rw [hbase] at h
    dsimp only at h
    rw [Entries.get?_put] at h
    split at h
    · next heq => rw [heq, hbase]; exact Schema.memo_addExtension h
    · exact h

theorem loaded?_unlinkExtension (source extension name : String) :
    (registry.unlinkExtension source extension).loaded? name = registry.loaded? name := by
  unfold unlinkExtension loaded?
  dsimp only
  rw [Entries.get?_modify]
  split
  · cases Entries.get? registry.catalog name <;> simp
  · rfl

theorem linked_unlinkExtension (source extension name : String) :
    (registry.unlinkExtension source extension).linked name =
      if name = source then (registry.linked name).filter (· ≠ extension)
      else registry.linked name := by
  unfold unlinkExtension linked
  dsimp only
  rw [Entries.get?_modify, Ledger.pendingFor_withdraw]
  by_cases h : name = source
  · simp only [if_pos h]
    cases Entries.get? registry.catalog name with
    | none => rfl
    | some schema => exact Schema.removeExtension_extensions schema extension
  · simp only [if_neg h]

theorem memo?_unlinkExtension {source extension name : String} {memo : Memo}
    (h : (registry.unlinkExtension source extension).memo? name = some memo) :
    registry.memo? name = some memo := by
  unfold unlinkExtension memo? at *
  dsimp only at h
  rw [Entries.get?_modify] at h
  split at h
  · cases hget : Entries.get? registry.catalog name with
    | none => rw [hget] at h; cases h
    | some schema => rw [hget] at h; exact Schema.memo_removeExtension h
  · exact h

/-! ### Placing and taking out -/

theorem loaded?_place (schema : Schema) (name : String) :
    (registry.place schema).loaded? name =
      if name = schema.name then some schema.asLoaded else registry.loaded? name := by
  unfold place loaded?
  dsimp only
  rw [Entries.get?_put]
  split
  · simp
  · rfl

/-- The extensions that wait for a schema go over to it. -/
theorem linked_place {schema : Schema} (hfree : registry.loaded? schema.name = none)
    (hbare : schema.extensions = []) (honce : (registry.linked schema.name).Nodup)
    (name : String) : (registry.place schema).linked name = registry.linked name := by
  have hpending := linked_of_none (loaded?_eq_none_iff.1 hfree)
  unfold place
  dsimp only [linked]
  rw [Entries.get?_put]
  by_cases h : name = schema.name
  · subst h
    rw [if_pos rfl]
    dsimp only [Ledger.drain]
    rw [Schema.foldl_addExtension, hbare, List.nil_append]
    · rw [loaded?_eq_none_iff.1 hfree]
    · rw [hbare, List.nil_append, ← hpending]
      exact honce
  · rw [if_neg h, Ledger.pendingFor_drain, if_neg h]

theorem memo?_place {schema : Schema} (hbare : schema.memo = none) {name : String} {memo : Memo}
    (h : (registry.place schema).memo? name = some memo) : registry.memo? name = some memo := by
  unfold place memo? at *
  dsimp only at h
  rw [Entries.get?_put] at h
  split at h
  · have hmemo := Schema.memo_foldl_addExtension h
    rw [hbare] at hmemo
    cases hmemo
  · exact h

theorem loaded?_takeOut (name other : String) :
    (registry.takeOut name).loaded? other =
      if other = name then none else registry.loaded? other := by
  unfold takeOut loaded?
  dsimp only
  rw [Entries.get?_without]
  split <;> rfl

theorem linked_takeOut {name : String} (hempty : registry.ledger.pendingFor name = [])
    (other : String) :
    (registry.takeOut name).linked other =
      if other = name then [] else registry.linked other := by
  unfold takeOut linked
  dsimp only
  rw [Entries.get?_without]
  by_cases h : other = name
  · rw [if_pos h, if_pos h, h]
    exact hempty
  · rw [if_neg h, if_neg h]

theorem memo?_takeOut {name other : String} {memo : Memo}
    (h : (registry.takeOut name).memo? other = some memo) : registry.memo? other = some memo := by
  unfold takeOut memo? at *
  dsimp only at h
  rw [Entries.get?_without] at h
  split at h
  · cases h
  · exact h

theorem loaded?_park (schema : Schema) (name : String) :
    (registry.park schema).loaded? name = registry.loaded? name := rfl

theorem memo?_park (schema : Schema) (name : String) :
    (registry.park schema).memo? name = registry.memo? name := rfl

theorem linked_park {schema : Schema} (hfree : registry.loaded? schema.name = none)
    (hregistered : ∀ extension ∈ schema.extensions, registry.loaded? extension ≠ none)
    (name : String) :
    (registry.park schema).linked name =
      if name = schema.name then registry.linked name ++ schema.extensions
      else registry.linked name := by
  have hall : schema.extensions.filter
      (fun extension => Entries.hasKey registry.catalog extension) = schema.extensions :=
    List.filter_eq_self.2 fun extension hmem => hasKey_iff_loaded?.2 (hregistered extension hmem)
  unfold park
  rw [hall]
  dsimp only [linked]
  cases hget : Entries.get? registry.catalog name with
  | some other =>
    have hne : name ≠ schema.name := by
      rintro rfl
      rw [loaded?_eq_none_iff.1 hfree] at hget
      cases hget
    rw [if_neg hne]
  | none =>
    dsimp only
    rw [Ledger.pendingFor_deferAll]

/-! ### The tie of a schema -/

theorem loaded?_link (schema : Schema) (name : String) :
    (registry.link schema).loaded? name = registry.loaded? name := by
  unfold link
  cases schema.patchSource with
  | none => rfl
  | some source => exact loaded?_linkExtension source schema.name name

theorem linked_link {schema : Schema}
    (hnew : ∀ source, schema.patchSource = some source → schema.name ∉ registry.linked source)
    (name : String) :
    (registry.link schema).linked name =
      if schema.patchSource = some name then registry.linked name ++ [schema.name]
      else registry.linked name := by
  unfold link
  cases hsource : schema.patchSource with
  | none => simp
  | some source =>
    dsimp only
    rw [linked_linkExtension (hnew source hsource)]
    by_cases h : name = source
    · rw [if_pos h, if_pos (by rw [h])]
    · rw [if_neg h, if_neg fun he => h (Option.some.inj he).symm]

theorem memo?_link {schema : Schema} {name : String} {memo : Memo}
    (h : (registry.link schema).memo? name = some memo) : registry.memo? name = some memo := by
  unfold link at h
  cases hsource : schema.patchSource with
  | none => rw [hsource] at h; exact h
  | some source => rw [hsource] at h; exact memo?_linkExtension h

theorem loaded?_unlink (schema : Schema) (name : String) :
    (registry.unlink schema).loaded? name = registry.loaded? name := by
  unfold unlink
  cases schema.patchSource with
  | none => rfl
  | some source => exact loaded?_unlinkExtension source schema.name name

theorem linked_unlink (schema : Schema) (name : String) :
    (registry.unlink schema).linked name =
      if schema.patchSource = some name then (registry.linked name).filter (· ≠ schema.name)
      else registry.linked name := by
  unfold unlink
  cases hsource : schema.patchSource with
  | none => simp
  | some source =>
    dsimp only
    rw [linked_unlinkExtension]
    by_cases h : name = source
    · rw [if_pos h, if_pos (by rw [h])]
    · rw [if_neg h, if_neg fun he => h (Option.some.inj he).symm]

theorem memo?_unlink {schema : Schema} {name : String} {memo : Memo}
    (h : (registry.unlink schema).memo? name = some memo) : registry.memo? name = some memo := by
  unfold unlink at h
  cases hsource : schema.patchSource with
  | none => rw [hsource] at h; exact h
  | some source => rw [hsource] at h; exact memo?_unlinkExtension h

/-! ### Tidiness -/

theorem Tidy.linkExtension (h : registry.Tidy) (source extension : String) :
    (registry.linkExtension source extension).Tidy := by
  have hloaded : ∀ name, (registry.linkExtension source extension).loaded? name =
      registry.loaded? name := loaded?_linkExtension source extension
  refine ⟨?_, fun name schema hs => h.named name schema (hloaded name ▸ hs),
    fun name schema hs => h.outward name schema (hloaded name ▸ hs), fun name hs => ?_, ?_⟩
  · unfold Registry.linkExtension
    cases Entries.get? registry.catalog source with
    | none => exact h.ascends
    | some base => exact h.ascends.put source _
  · rw [hloaded] at hs
    unfold Registry.linkExtension
    cases hbase : Entries.get? registry.catalog source with
    | some base => exact h.drained name hs
    | none =>
      have hne : name ≠ source := by
        rintro rfl
        exact hs (loaded?_eq_none_iff.2 hbase)
      dsimp only
      rw [Ledger.defer, Ledger.get?_setPending, if_neg hne]
      exact h.drained name hs
  · unfold Registry.linkExtension
    cases Entries.get? registry.catalog source with
    | some base => exact h.ledger
    | none => exact h.ledger.setPending source _

theorem Tidy.unlinkExtension (h : registry.Tidy) (source extension : String) :
    (registry.unlinkExtension source extension).Tidy := by
  have hloaded : ∀ name, (registry.unlinkExtension source extension).loaded? name =
      registry.loaded? name := loaded?_unlinkExtension source extension
  have hascends := h.ascends.modify source fun base => base.removeExtension extension
  refine ⟨hascends, fun name schema hs => h.named name schema (hloaded name ▸ hs),
    fun name schema hs => h.outward name schema (hloaded name ▸ hs), fun name hs => ?_,
    h.ledger.setPending source _⟩
  rw [hloaded] at hs
  unfold Registry.unlinkExtension
  dsimp only [Ledger.withdraw]
  rw [Ledger.get?_setPending]
  split
  · next heq =>
    -- nothing waits for a registered name, and nothing is left of nothing
    subst heq
    have hnil : registry.ledger.pendingFor name = [] := by
      unfold Ledger.pendingFor
      rw [h.drained name hs]
      rfl
    rw [hnil]
    rfl
  · exact h.drained name hs

theorem Tidy.link (h : registry.Tidy) (schema : Schema) : (registry.link schema).Tidy := by
  unfold Registry.link
  cases schema.patchSource with
  | none => exact h
  | some source => exact h.linkExtension source schema.name

theorem Tidy.unlink (h : registry.Tidy) (schema : Schema) : (registry.unlink schema).Tidy := by
  unfold Registry.unlink
  cases schema.patchSource with
  | none => exact h
  | some source => exact h.unlinkExtension source schema.name

theorem Tidy.place (h : registry.Tidy) {schema : Schema}
    (houtward : schema.patchSource ≠ some schema.name) : (registry.place schema).Tidy := by
  refine ⟨h.ascends.put schema.name _, fun name other hs => ?_, fun name other hs => ?_,
    fun name hs => ?_, h.ledger.setPending schema.name []⟩
  · rw [loaded?_place] at hs
    split at hs
    · next heq => cases hs; exact heq.symm
    · exact h.named name other hs
  · rw [loaded?_place] at hs
    split at hs
    · next heq => cases hs; rw [heq]; exact houtward
    · exact h.outward name other hs
  · rw [loaded?_place] at hs
    unfold Registry.place
    dsimp only [Ledger.drain]
    rw [Ledger.get?_setPending]
    split
    · rfl
    · next hne => exact h.drained name (by rwa [if_neg hne] at hs)

theorem Tidy.takeOut (h : registry.Tidy) (name : String) : (registry.takeOut name).Tidy := by
  have hloaded : ∀ other, (registry.takeOut name).loaded? other ≠ none →
      (registry.takeOut name).loaded? other = registry.loaded? other := by
    intro other hs
    rw [loaded?_takeOut] at hs ⊢
    split at hs
    · exact absurd rfl hs
    · next hne => rw [if_neg hne]
  refine ⟨h.ascends.without name, fun other schema hs => ?_, fun other schema hs => ?_,
    fun other hs => ?_, h.ledger⟩
  · exact h.named other schema (hloaded other (by rw [hs]; simp) ▸ hs)
  · exact h.outward other schema (hloaded other (by rw [hs]; simp) ▸ hs)
  · exact h.drained other (hloaded other hs ▸ hs)

theorem Tidy.park (h : registry.Tidy) {schema : Schema}
    (hfree : registry.loaded? schema.name = none) : (registry.park schema).Tidy := by
  refine ⟨h.ascends, h.named, h.outward, fun name hs => ?_, h.ledger.deferAll schema.name _⟩
  have hne : name ≠ schema.name := by
    rintro rfl
    exact hs hfree
  exact (Ledger.get?_deferAll_of_ne hne _).trans (h.drained name hs)

end Registry

end Schemata
