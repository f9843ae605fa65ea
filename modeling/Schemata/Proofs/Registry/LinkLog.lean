import Schemata.Proofs.Registry.Upkeep

/-!
# The link log

The history of a registry as a list of links, each an extension with the schema that it extends. A
link is written down when a schema is registered, moves to the end when its schema comes to extend
another one, and is struck out when its schema is deregistered; schemas that are extended do not
matter. At every time the log says which extensions are tied to which name, and in which order.

    LinkLog.Agrees registry log → (perform, step) → Agrees                    (Agrees.perform)
    the extensions of a registered name are those of the log, and nothing waits for it;
    for another name those of the log wait                                     (extensions_follow_log)
-/

namespace Schemata

/-- An extension with the name of the schema that it extends. -/
structure Link where
  /-- The name of the extension. -/
  extension : String
  /-- The name of the schema that it extends. -/
  source : String
  deriving DecidableEq, Repr

/-- Links in the order in which they were made. -/
abbrev LinkLog := List Link

namespace LinkLog

/-! ## Algorithm -/

def extensionsOf (log : LinkLog) (source : String) : List String :=
  (log.filter fun link => link.source = source).map (·.extension)

def strike (log : LinkLog) (extension : String) : LinkLog :=
  log.filter fun link => link.extension ≠ extension

def ofSchema (schema : Schema) : LinkLog :=
  schema.patchSource.toList.map fun source => ⟨schema.name, source⟩

/-- The log after a schema was registered, for a new name or in place of a registered one. -/
def registered (log : LinkLog) (existing? : Option Schema) (schema : Schema) : LinkLog :=
  match existing? with
  | none => log ++ ofSchema schema
  | some existing =>
    if existing.patchSource = schema.patchSource then log
    else log.strike schema.name ++ ofSchema schema

def step (registry : Registry) (log : LinkLog) : Operation → LinkLog
  | .register handle replace =>
    match handle.load with
    | .error _ => log
    | .ok schema =>
      match registry.insert schema replace with
      | .error _ => log
      | .ok _ => log.registered (Entries.get? registry.catalog schema.name) schema
  | .deregister name => if (registry.deregister name).1 then log.strike name else log
  | .beginDiscovery => []
  | _ => log

def steps (registry : Registry) (log : LinkLog) : List Operation → LinkLog
  | [] => log
  | operation :: operations =>
    steps (registry.perform operation) (step registry log operation) operations

def ofHistory (registry : Registry) (operations : List Operation) : LinkLog :=
  steps registry [] operations

/-! ## Lemmas -/

theorem mem_extensionsOf {log : LinkLog} {source extension : String} :
    extension ∈ log.extensionsOf source ↔ (⟨extension, source⟩ : Link) ∈ log := by
  unfold extensionsOf
  rw [List.mem_map]
  constructor
  · rintro ⟨⟨e, s⟩, hmem, rfl⟩
    obtain ⟨hmem, hs⟩ := List.mem_filter.1 hmem
    rw [← of_decide_eq_true hs]
    exact hmem
  · intro hmem
    exact ⟨⟨extension, source⟩, List.mem_filter.2 ⟨hmem, decide_eq_true rfl⟩, rfl⟩

theorem extensionsOf_append (log log' : LinkLog) (source : String) :
    (log ++ log').extensionsOf source = log.extensionsOf source ++ log'.extensionsOf source := by
  simp [extensionsOf]

theorem extensionsOf_ofSchema (schema : Schema) (source : String) :
    (ofSchema schema).extensionsOf source =
      if schema.patchSource = some source then [schema.name] else [] := by
  unfold ofSchema extensionsOf
  cases schema.patchSource with
  | none => rfl
  | some other => by_cases h : other = source <;> simp [h]

theorem extensionsOf_strike (log : LinkLog) (extension source : String) :
    (log.strike extension).extensionsOf source =
      (log.extensionsOf source).filter (· ≠ extension) := by
  unfold strike extensionsOf
  rw [List.filter_filter, List.filter_map, List.filter_filter]
  simp [Bool.and_comm]

theorem mem_ofSchema {schema : Schema} {name source : String} :
    (⟨name, source⟩ : Link) ∈ ofSchema schema ↔
      name = schema.name ∧ schema.patchSource = some source := by
  unfold ofSchema
  cases schema.patchSource with
  | none => simp
  | some other => simp [eq_comm]

theorem mem_strike {log : LinkLog} {extension name source : String} :
    (⟨name, source⟩ : Link) ∈ log.strike extension ↔
      (⟨name, source⟩ : Link) ∈ log ∧ name ≠ extension := by
  simp [strike]

@[simp] theorem strike_strike (log : LinkLog) (extension : String) :
    (log.strike extension).strike extension = log.strike extension := by
  simp [strike]

theorem strike_append (log log' : LinkLog) (extension : String) :
    (log ++ log').strike extension = log.strike extension ++ log'.strike extension :=
  List.filter_append log log'

@[simp] theorem strike_ofSchema (schema : Schema) : (ofSchema schema).strike schema.name = [] := by
  unfold strike ofSchema
  cases schema.patchSource <;> simp

/-- A registration changes no link but that of its schema. -/
theorem strike_registered (log : LinkLog) (existing? : Option Schema) (schema : Schema) :
    (log.registered existing? schema).strike schema.name = log.strike schema.name := by
  unfold registered
  cases existing? with
  | none => simp [strike_append]
  | some existing =>
    dsimp only
    split
    · rfl
    · simp [strike_append]

theorem nodup_extensionsOf {log : LinkLog} (honce : (log.map (·.extension)).Nodup)
    (source : String) : (log.extensionsOf source).Nodup :=
  List.Nodup.sublist (List.Sublist.map _ List.filter_sublist) honce

/-! ### Agreement -/

/-- A log agrees with a registry: its links are those of the registered schemas, one for each, and
it ties to every name what the registry ties to it. -/
structure Agrees (registry : Registry) (log : LinkLog) : Prop where
  tidy : registry.Tidy
  links : ∀ name source, (⟨name, source⟩ : Link) ∈ log ↔
    (registry.loaded? name).bind (·.patchSource) = some source
  once : (log.map (·.extension)).Nodup
  linked : ∀ source, registry.linked source = log.extensionsOf source

variable {registry : Registry} {log : LinkLog}

namespace Agrees

/-- What is tied to a name is registered, and something else. -/
theorem registered_of_linked (h : Agrees registry log) {name extension : String}
    (hmem : extension ∈ registry.linked name) :
    extension ≠ name ∧ registry.loaded? extension ≠ none := by
  rw [h.linked, mem_extensionsOf, h.links] at hmem
  cases hloaded : registry.loaded? extension with
  | none => rw [hloaded] at hmem; cases hmem
  | some schema =>
    rw [hloaded] at hmem
    refine ⟨?_, by simp⟩
    rintro rfl
    exact h.tidy.outward extension schema hloaded hmem

/-- A name that is not registered has no link. -/
theorem not_mem_of_free (h : Agrees registry log) {name : String}
    (hfree : registry.loaded? name = none) (source : String) :
    (⟨name, source⟩ : Link) ∉ log := by
  rw [h.links, hfree]
  simp

theorem not_linked_of_free (h : Agrees registry log) {name : String}
    (hfree : registry.loaded? name = none) (source : String) : name ∉ registry.linked source := by
  rw [h.linked, mem_extensionsOf]
  exact h.not_mem_of_free hfree source

theorem nodup_linked (h : Agrees registry log) (name : String) : (registry.linked name).Nodup := by
  rw [h.linked]
  exact nodup_extensionsOf h.once name

/-- Before anything is registered nothing is written down. -/
theorem emptied (registry : Registry) : Agrees registry.emptied [] where
  tidy := Registry.tidy_emptied registry
  links name source := by
    constructor
    · intro h; cases h
    · intro h; cases h
  once := List.nodup_nil
  linked _ := rfl

/-- Upkeep needs no entry. -/
theorem of_sameSchemas {after : Registry} (h : Agrees registry log)
    (hsame : Registry.SameSchemas registry after) : Agrees after log where
  tidy := hsame.tidy h.tidy
  links name source := by rw [hsame.loaded?]; exact h.links name source
  once := h.once
  linked source := by rw [hsame.linked]; exact h.linked source

/-- A new schema writes its link behind the others. -/
theorem enter (h : Agrees registry log) {schema : Schema}
    (hfree : registry.loaded? schema.name = none) (hbare : schema.extensions = [])
    (houtward : schema.patchSource ≠ some schema.name) :
    Agrees (registry.enter schema true) (log ++ ofSchema schema) where
  tidy := h.tidy.enter true houtward
  links name source := by
    rw [List.mem_append, mem_ofSchema, Registry.loaded?_enter]
    by_cases hname : name = schema.name
    · subst hname
      rw [if_pos rfl]
      constructor
      · rintro (hmem | ⟨-, hsource⟩)
        · exact absurd hmem (h.not_mem_of_free hfree source)
        · exact hsource
      · intro hsource
        exact Or.inr ⟨rfl, hsource⟩
    · rw [if_neg hname, ← h.links]
      constructor
      · rintro (hmem | ⟨heq, -⟩)
        · exact hmem
        · exact absurd heq hname
      · intro hmem
        exact Or.inl hmem
  once := by
    rw [List.map_append, List.nodup_append]
    refine ⟨h.once, ?_, ?_⟩
    · unfold ofSchema
      cases schema.patchSource <;> simp
    · intro extension hmem other hother heq
      obtain ⟨⟨name, source⟩, hlink, rfl⟩ := List.mem_map.1 hmem
      obtain ⟨⟨name', source'⟩, hlink', rfl⟩ := List.mem_map.1 hother
      obtain ⟨rfl, -⟩ := mem_ofSchema.1 hlink'
      dsimp only at heq
      subst heq
      exact h.not_mem_of_free hfree source hlink
  linked source := by
    rw [Registry.linked_enter hfree hbare (h.nodup_linked _)
      fun _ source _ => h.not_linked_of_free hfree source]
    rw [extensionsOf_append, extensionsOf_ofSchema, h.linked]
    by_cases hsource : schema.patchSource = some source <;> simp [hsource]

/-- A schema that is taken out takes its own link along, and leaves those of its extensions. -/
theorem remove (h : Agrees registry log) {schema : Schema}
    (hget : Entries.get? registry.catalog schema.name = some schema) :
    Agrees (registry.remove schema true) (log.strike schema.name) where
  tidy := h.tidy.remove schema true
  links name source := by
    rw [mem_strike, Registry.loaded?_remove, h.links]
    by_cases hname : name = schema.name
    · simp [hname]
    · simp [hname]
  once := List.Nodup.sublist (List.Sublist.map _ List.filter_sublist) h.once
  linked source := by
    rw [Registry.linked_remove h.tidy hget
      fun extension hmem => h.registered_of_linked (Registry.linked_of_some hget ▸ hmem)]
    rw [extensionsOf_strike, ← h.linked]
    by_cases hsource : schema.patchSource = some source
    · rw [if_pos ⟨rfl, hsource⟩]
    · -- the only link of the schema is to another name
      rw [if_neg fun hand => hsource hand.2]
      refine (List.filter_eq_self.2 fun extension hmem => decide_eq_true ?_).symm
      rintro rfl
      rw [h.linked, mem_extensionsOf, h.links, Registry.loaded?_of_some hget] at hmem
      exact hsource hmem

/-- A schema that takes the place of another one keeps its link where it is. -/
theorem replaceInPlace (h : Agrees registry log) {existing schema : Schema}
    (hget : Entries.get? registry.catalog schema.name = some existing)
    (hkeeps : existing.patchSource = schema.patchSource) (hbare : schema.extensions = [])
    (houtward : schema.patchSource ≠ some schema.name) :
    Agrees ((registry.remove existing false).enter schema false) log := by
  have hname : existing.name = schema.name := h.tidy.name_eq hget
  have hself : Entries.get? registry.catalog existing.name = some existing := hname ▸ hget
  have hremoved : ∀ source,
      (registry.remove existing false).linked source = registry.linked source := by
    intro source
    rw [Registry.linked_remove h.tidy hself
      fun extension hmem => h.registered_of_linked (Registry.linked_of_some hself ▸ hmem)]
    simp
  refine ⟨(h.tidy.remove existing false).enter false houtward, fun name source => ?_, h.once,
    fun source => ?_⟩
  · rw [Registry.loaded?_enter, Registry.loaded?_remove, h.links, hname]
    by_cases hn : name = schema.name
    · rw [if_pos hn, hn, Registry.loaded?_of_some hget]
      show existing.patchSource = some source ↔ schema.patchSource = some source
      rw [hkeeps]
    · rw [if_neg hn, if_neg hn]
  · have hfree : (registry.remove existing false).loaded? schema.name = none := by
      rw [Registry.loaded?_remove, hname, if_pos rfl]
    have honce : ((registry.remove existing false).linked schema.name).Nodup := by
      rw [hremoved]
      exact h.nodup_linked schema.name
    rw [Registry.linked_enter hfree hbare honce (by simp), hremoved, h.linked]
    simp

/-- What a registration does to the registry is what it does to the log. -/
theorem insert (h : Agrees registry log) {schema : Schema} {replace : Bool} {after : Registry}
    (hbare : schema.extensions = []) (hinsert : registry.insert schema replace = .ok after) :
    Agrees after (log.registered (Entries.get? registry.catalog schema.name) schema) := by
  obtain ⟨houtward, ⟨hget, rfl⟩ | ⟨existing, hget, ⟨hkeeps, rfl⟩ | ⟨hmoves, rfl⟩⟩⟩ :=
    Registry.insert_ok_cases hinsert
  · rw [hget]
    exact h.enter (Registry.loaded?_eq_none_iff.2 hget) hbare houtward
  · rw [hget]
    dsimp only [registered]
    rw [if_pos hkeeps]
    exact h.replaceInPlace hget hkeeps hbare houtward
  · rw [hget]
    dsimp only [registered]
    rw [if_neg hmoves]
    have hname : existing.name = schema.name := h.tidy.name_eq hget
    have hremoved := h.remove (hname ▸ hget)
    rw [hname] at hremoved
    refine hremoved.enter ?_ hbare houtward
    rw [Registry.loaded?_remove, hname, if_pos rfl]

/-- Every step does to the registry what it does to the log. -/
theorem perform (h : Agrees registry log) (operation : Operation) :
    Agrees (registry.perform operation) (step registry log operation) := by
  cases operation with
  | register handle replace =>
    dsimp only [step]
    rcases Registry.perform_register_cases registry handle replace with
      ⟨schema, after, hload, hinsert, heq⟩ | ⟨hfails, heq⟩
    · rw [heq, hload]
      dsimp only
      rw [hinsert]
      exact h.insert (Handle.load_bare hload).1 hinsert
    · rw [heq]
      cases hload : handle.load with
      | error failure => exact h
      | ok schema =>
        dsimp only
        cases hinsert : registry.insert schema replace with
        | error failure => exact h
        | ok after => exact absurd hinsert (hfails schema after hload)
  | deregister name =>
    show Agrees (registry.deregister name).2
      (if (registry.deregister name).1 then log.strike name else log)
    cases hget : Entries.get? registry.catalog name with
    | none =>
      rw [Registry.deregister_unregistered hget]
      exact h
    | some schema =>
      rw [Registry.deregister_registered hget]
      have hname : schema.name = name := h.tidy.name_eq hget
      subst hname
      exact h.remove hget
  | beginDiscovery => exact emptied registry
  | _ => exact h.of_sameSchemas (Registry.sameSchemas_perform registry rfl)

/-- The log of a history agrees with the registry that the history leads to. -/
theorem steps (h : Agrees registry log) (operations : List Operation) :
    Agrees (registry.run operations) (log.steps registry operations) := by
  induction operations generalizing registry log with
  | nil => exact h
  | cons operation operations ih => exact ih (h.perform operation)

end Agrees

theorem agrees_new (settings : Settings) (directory : String) :
    Agrees (Registry.new settings directory) [] :=
  (Agrees.emptied _).of_sameSchemas (Registry.sameSchemas_new settings directory)

/-- The log of a history agrees with the registry that it leads a new registry to. -/
theorem agrees_ofHistory (settings : Settings) (directory : String)
    (operations : List Operation) :
    Agrees ((Registry.new settings directory).run operations)
      (ofHistory (Registry.new settings directory) operations) :=
  (agrees_new settings directory).steps operations

/-! ## Top theorem -/

/-- In every history the extensions of a registered schema are those that the log has for its name,
in the order of the log, and nothing waits for the name; for a name that is not registered those
extensions wait, in the same order, and without any the ledger does not know the name. -/
theorem extensions_follow_log (settings : Settings) (directory : String)
    (operations : List Operation) (name : String) :
    let registry := (Registry.new settings directory).run operations
    let extensions := (ofHistory (Registry.new settings directory) operations).extensionsOf name
    match Entries.get? registry.catalog name with
    | some schema =>
      schema.extensions = extensions ∧ Entries.get? registry.ledger.pending name = none
    | none =>
      Entries.get? registry.ledger.pending name =
        if extensions = [] then none else some extensions := by
  intro registry extensions
  have h := agrees_ofHistory settings directory operations
  have hlinked : registry.linked name = extensions := h.linked name
  have hpending := h.tidy.get?_pending name
  cases hget : Entries.get? registry.catalog name with
  | some schema =>
    refine ⟨by rw [← hlinked, Registry.linked_of_some hget], ?_⟩
    rw [hpending, Registry.loaded?_of_some hget]
    simp
  | none =>
    show Entries.get? registry.ledger.pending name = _
    rw [hpending, Registry.loaded?_eq_none_iff.2 hget, ← hlinked]
    by_cases hnil : registry.linked name = []
    · rw [if_pos hnil, if_neg fun hand => hand.2 hnil]
    · rw [if_neg hnil, if_pos ⟨rfl, hnil⟩]

end LinkLog

end Schemata
