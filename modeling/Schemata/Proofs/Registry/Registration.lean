import Schemata.Proofs.Registry.Histories
import Schemata.Proofs.Registry.Views

/-!
# What registration changes

Entering a schema and removing one, as what they do to the views of a registry, and the ways in
which a registration can succeed. What is tied to a name outlives its schema: removing a schema
parks its extensions, and entering one takes them up again.

    (registry.enter schema true).linked n  = linked n, and the schema behind what it extends
    (registry.remove schema true).linked n = linked n, without the schema
    registry.insert schema replace = .ok after → new ∨ in the same place ∨ moved    (insert_ok_cases)
-/

namespace Schemata

namespace Registry

variable {registry : Registry}

/-! ## Entering -/

theorem loaded?_enter (schema : Schema) (link : Bool) (name : String) :
    (registry.enter schema link).loaded? name =
      if name = schema.name then some schema.asLoaded else registry.loaded? name := by
  unfold enter
  cases link with
  | false => exact loaded?_place schema name
  | true => exact (loaded?_link schema name).trans (loaded?_place schema name)

theorem linked_enter {schema : Schema} {link : Bool} (hfree : registry.loaded? schema.name = none)
    (hbare : schema.extensions = []) (honce : (registry.linked schema.name).Nodup)
    (hnew : link = true →
      ∀ source, schema.patchSource = some source → schema.name ∉ registry.linked source)
    (name : String) :
    (registry.enter schema link).linked name =
      if link = true ∧ schema.patchSource = some name then registry.linked name ++ [schema.name]
      else registry.linked name := by
  have hplace := linked_place hfree hbare honce
  unfold enter
  cases link with
  | false => simp [hplace]
  | true =>
    show ((registry.place schema).link schema).linked name = _
    rw [linked_link, hplace]
    · simp
    · intro source hsource
      rw [hplace]
      exact hnew rfl source hsource

theorem memo?_enter {schema : Schema} {link : Bool} (hbare : schema.memo = none) {name : String}
    {memo : Memo} (h : (registry.enter schema link).memo? name = some memo) :
    registry.memo? name = some memo := by
  unfold enter at h
  cases link with
  | false => exact memo?_place hbare h
  | true => exact memo?_place hbare (memo?_link h)

theorem Tidy.enter (h : registry.Tidy) {schema : Schema} (link : Bool)
    (houtward : schema.patchSource ≠ some schema.name) : (registry.enter schema link).Tidy := by
  unfold Registry.enter
  cases link with
  | false => exact h.place houtward
  | true => exact (h.place houtward).link schema

/-! ## Removing -/

/-- What is left of a registry without a schema, before the schema's extensions are parked. -/
def detached (registry : Registry) (schema : Schema) (unlink : Bool) : Registry :=
  if unlink then (registry.takeOut schema.name).unlink schema else registry.takeOut schema.name

theorem remove_eq (schema : Schema) (unlink : Bool) :
    registry.remove schema unlink = (registry.detached schema unlink).park schema := rfl

theorem loaded?_detached (schema : Schema) (unlink : Bool) (name : String) :
    (registry.detached schema unlink).loaded? name =
      if name = schema.name then none else registry.loaded? name := by
  unfold detached
  cases unlink with
  | false => exact loaded?_takeOut schema.name name
  | true => exact (loaded?_unlink schema name).trans (loaded?_takeOut schema.name name)

theorem loaded?_remove (schema : Schema) (unlink : Bool) (name : String) :
    (registry.remove schema unlink).loaded? name =
      if name = schema.name then none else registry.loaded? name := by
  rw [remove_eq, loaded?_park, loaded?_detached]

theorem linked_remove (h : registry.Tidy) {schema : Schema}
    (hget : Entries.get? registry.catalog schema.name = some schema)
    (hregistered : ∀ extension ∈ schema.extensions,
      extension ≠ schema.name ∧ registry.loaded? extension ≠ none) (unlink : Bool) (name : String) :
    (registry.remove schema unlink).linked name =
      if unlink = true ∧ schema.patchSource = some name then
        (registry.linked name).filter (· ≠ schema.name)
      else registry.linked name := by
  have hne : schema.patchSource ≠ some schema.name := h.source_ne hget
  have htaken := linked_takeOut (h.pendingFor_eq_nil hget)
  have hdetached : ∀ other, (registry.detached schema unlink).linked other =
      if other = schema.name then []
      else if unlink = true ∧ schema.patchSource = some other then
        (registry.linked other).filter (· ≠ schema.name)
      else registry.linked other := by
    intro other
    unfold detached
    cases unlink with
    | false => simp [htaken]
    | true =>
      show ((registry.takeOut schema.name).unlink schema).linked other = _
      rw [linked_unlink, htaken]
      by_cases ho : other = schema.name
      · simp [ho]
      · simp [ho]
  rw [remove_eq, linked_park, hdetached]
  · by_cases ho : name = schema.name
    · rw [if_pos ho, if_pos ho, ho, List.nil_append, if_neg fun hand => hne hand.2,
        linked_of_some hget]
    · rw [if_neg ho, if_neg ho]
  · rw [loaded?_detached, if_pos rfl]
  · intro extension hmem
    obtain ⟨hother, hloaded⟩ := hregistered extension hmem
    rw [loaded?_detached, if_neg hother]
    exact hloaded

theorem memo?_remove {schema : Schema} {unlink : Bool} {name : String} {memo : Memo}
    (h : (registry.remove schema unlink).memo? name = some memo) :
    registry.memo? name = some memo := by
  rw [remove_eq, memo?_park] at h
  unfold detached at h
  cases unlink with
  | false => exact memo?_takeOut h
  | true => exact memo?_takeOut (memo?_unlink h)

theorem Tidy.remove (h : registry.Tidy) (schema : Schema) (unlink : Bool) :
    (registry.remove schema unlink).Tidy := by
  rw [remove_eq]
  have hdetached : (registry.detached schema unlink).Tidy := by
    unfold detached
    cases unlink with
    | false => exact h.takeOut schema.name
    | true => exact (h.takeOut schema.name).unlink schema
  exact hdetached.park (by rw [loaded?_detached, if_pos rfl])

/-! ## Inserting -/

/-- A registration succeeds for a new name; or it replaces a schema in its place, or moves it. -/
theorem insert_ok_cases {schema : Schema} {replace : Bool} {after : Registry}
    (h : registry.insert schema replace = .ok after) :
    schema.patchSource ≠ some schema.name ∧
      ((Entries.get? registry.catalog schema.name = none ∧ after = registry.enter schema true) ∨
        ∃ existing, Entries.get? registry.catalog schema.name = some existing ∧
          ((existing.patchSource = schema.patchSource ∧
              after = (registry.remove existing false).enter schema false) ∨
            (existing.patchSource ≠ schema.patchSource ∧
              after = (registry.remove existing true).enter schema true))) := by
  unfold insert at h
  split at h
  · cases h
  · next houtward =>
    refine ⟨houtward, ?_⟩
    cases hget : Entries.get? registry.catalog schema.name with
    | none =>
      rw [hget] at h
      cases h
      exact Or.inl ⟨rfl, rfl⟩
    | some existing =>
      rw [hget] at h
      dsimp only at h
      split at h
      · cases h
      · refine Or.inr ⟨existing, rfl, ?_⟩
        cases h
        by_cases hkeeps : existing.patchSource = schema.patchSource
        · exact Or.inl ⟨hkeeps, by simp [hkeeps]⟩
        · exact Or.inr ⟨hkeeps, by simp [hkeeps]⟩

/-- A new name is registered unless its schema extends itself. -/
theorem insert_new {schema : Schema} (houtward : schema.patchSource ≠ some schema.name)
    (hfree : registry.loaded? schema.name = none) (replace : Bool) :
    registry.insert schema replace = .ok (registry.enter schema true) := by
  unfold insert
  rw [if_neg houtward, loaded?_eq_none_iff.1 hfree]

theorem Tidy.insert (h : registry.Tidy) {schema : Schema} {replace : Bool} {after : Registry}
    (hinsert : registry.insert schema replace = .ok after) : after.Tidy := by
  obtain ⟨houtward, ⟨-, rfl⟩ | ⟨existing, -, ⟨-, rfl⟩ | ⟨-, rfl⟩⟩⟩ := insert_ok_cases hinsert
  · exact h.enter true houtward
  · exact (h.remove existing false).enter false houtward
  · exact (h.remove existing true).enter true houtward

theorem loaded?_insert (h : registry.Tidy) {schema : Schema} {replace : Bool} {after : Registry}
    (hinsert : registry.insert schema replace = .ok after) (name : String) :
    after.loaded? name =
      if name = schema.name then some schema.asLoaded else registry.loaded? name := by
  obtain ⟨-, ⟨-, rfl⟩ | ⟨existing, hget, ⟨-, rfl⟩ | ⟨-, rfl⟩⟩⟩ := insert_ok_cases hinsert
  · exact loaded?_enter schema true name
  all_goals
    rw [loaded?_enter, loaded?_remove, h.name_eq hget]
    split <;> rfl

theorem memo?_insert {schema : Schema} (hbare : schema.memo = none) {replace : Bool}
    {after : Registry} (hinsert : registry.insert schema replace = .ok after) {name : String}
    {memo : Memo} (hmemo : after.memo? name = some memo) : registry.memo? name = some memo := by
  obtain ⟨-, ⟨-, rfl⟩ | ⟨existing, -, ⟨-, rfl⟩ | ⟨-, rfl⟩⟩⟩ := insert_ok_cases hinsert
  · exact memo?_enter hbare hmemo
  · exact memo?_remove (memo?_enter hbare hmemo)
  · exact memo?_remove (memo?_enter hbare hmemo)

/-- A loaded schema is registered under its name. -/
theorem registerLoaded_eq_ok_iff {loaded : Except Failure Schema} {replace : Bool} {name : String}
    {after : Registry} : registry.registerLoaded loaded replace = .ok (name, after) ↔
      ∃ schema, loaded = .ok schema ∧ schema.name = name ∧
        registry.insert schema replace = .ok after := by
  unfold registerLoaded
  cases loaded with
  | error failure => simp
  | ok schema =>
    cases hinsert : registry.insert schema replace <;> simp [hinsert]

/-! ## The engine -/

theorem engine_link (schema : Schema) : (registry.link schema).engine = registry.engine := by
  unfold link linkExtension
  cases schema.patchSource with
  | none => rfl
  | some source =>
    dsimp only
    split <;> rfl

theorem engine_enter (schema : Schema) (link : Bool) :
    (registry.enter schema link).engine = registry.engine := by
  unfold enter
  cases link with
  | false => rfl
  | true => exact engine_link schema

theorem engine_remove (schema : Schema) (unlink : Bool) :
    (registry.remove schema unlink).engine = registry.engine := by
  unfold remove Registry.unlink
  cases unlink with
  | false => rfl
  | true => cases schema.patchSource <;> rfl

/-- A registration leaves the engine alone. -/
theorem engine_insert {schema : Schema} {replace : Bool} {after : Registry}
    (hinsert : registry.insert schema replace = .ok after) : after.engine = registry.engine := by
  obtain ⟨-, ⟨-, rfl⟩ | ⟨existing, -, ⟨-, rfl⟩ | ⟨-, rfl⟩⟩⟩ := insert_ok_cases hinsert
  · exact engine_enter schema true
  · rw [engine_enter, engine_remove]
  · rw [engine_enter, engine_remove]

end Registry

/-! ## Loading -/

/-- What is loaded has no extensions yet and nothing compiled, and a name that its document gives. -/
theorem Schema.ofDocument_ok {document : Json.Value} {source : Option String} {schema : Schema}
    (h : Schema.ofDocument document source = .ok schema) :
    ∃ members patchSource, document = .object members ∧
      Schema.nameOf members source = .ok schema.name ∧
      schema = ⟨schema.name, document, source, patchSource, [], none⟩ := by
  cases document with
  | object members =>
    obtain ⟨name, hname, h⟩ := bind_eq_ok_iff.1 h
    cases hsource : Schema.patchSourceOf (.object members) with
    | error reason => rw [hsource] at h; cases h
    | ok patchSource =>
      rw [hsource] at h
      cases h
      exact ⟨members, patchSource, rfl, hname, rfl⟩
  | _ => cases h

theorem Discovery.load_ok {files : Files.FileSystem} {path : String} {schema : Schema}
    (h : Discovery.load files path = .ok schema) :
    ∃ document source, Schema.ofDocument document source = .ok schema := by
  unfold Discovery.load at h
  split at h
  · unfold Schema.ofText at h
    split at h
    · exact ⟨_, _, h⟩
    · cases h
  · cases h

/-- Every handle gives the schema of a document. -/
theorem Handle.load_ok {handle : Handle} {schema : Schema} (h : handle.load = .ok schema) :
    ∃ document source, Schema.ofDocument document source = .ok schema := by
  cases handle with
  | document content => exact ⟨content, none, h⟩
  | file files path =>
    unfold Handle.load at h
    dsimp only at h
    split at h
    · cases h
    · exact Discovery.load_ok h
  | found files path => exact Discovery.load_ok h

theorem Handle.load_bare {handle : Handle} {schema : Schema} (h : handle.load = .ok schema) :
    schema.extensions = [] ∧ schema.memo = none := by
  obtain ⟨document, source, hdocument⟩ := Handle.load_ok h
  obtain ⟨members, patchSource, -, -, heq⟩ := Schema.ofDocument_ok hdocument
  rw [heq]
  exact ⟨rfl, rfl⟩

theorem Handle.load_asLoaded {handle : Handle} {schema : Schema}
    (h : handle.load = .ok schema) : schema.asLoaded = schema := by
  obtain ⟨hextensions, hbare⟩ := Handle.load_bare h
  cases schema
  cases hextensions
  cases hbare
  rfl

end Schemata
