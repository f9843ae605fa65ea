import Schemata.Proofs.Discovery.Loading
import Schemata.Proofs.Discovery.Scanning
import Schemata.Proofs.Registry.RegistrationOrder

/-!
# Discovery as registration

A discovery forgets all schemas and registers those of the files that it finds, in order. What comes
of a file depends on what it loads and on the schemas that were admitted before it: a schema that
extends itself is refused, and so is one whose name is taken. What is refused leaves no trace, so that
the registry and the registered names are the same without it. It makes no difference in which order
the files are read to their ends.

    what comes of a file is what comes of registering its schema           (registerLoaded_eq_fate)
    the registry after a discovery is that of the admitted schemas           (foldl_admitLoaded)
    without some of what is refused the same is admitted                    (accepted_of_thins)
    when refused files are deleted only these are missing                        (thins_deleted)
    discovery = forgetting, and then registering one after the other         (discover_registers)
-/

namespace Schemata

open Files (FileSystem)

namespace Discovery

/-! ## Algorithm -/

/-- What comes of a file when some schemas are admitted: its schema, or why it is refused. -/
def fate (admitted : List Schema) (loaded : Except Failure Schema) : Except Failure Schema := do
  let schema ← loaded
  if schema.patchSource = some schema.name then
    .error (.circularExtension [schema.name, schema.name])
  else
    match admitted.find? fun other => other.name = schema.name with
    | some other => .error (.schemaExists schema.name other.source)
    | none => .ok schema

/-- What comes of files one after the other; the first schema of a name is admitted. -/
def fates (admitted : List Schema) :
    List (String × Except Failure Schema) → List (String × Except Failure Schema)
  | [] => []
  | (path, loaded) :: loads =>
    let outcome := fate admitted loaded
    (path, outcome) :: fates (admitted ++ outcome.toOption.toList) loads

/-- The schemas that are admitted. -/
def accepted (outcomes : List (String × Except Failure Schema)) : List Schema :=
  outcomes.filterMap fun outcome => outcome.2.toOption

def refused (outcomes : List (String × Except Failure Schema)) : List Loss :=
  outcomes.filterMap fun outcome =>
    match outcome.2 with
    | .ok _ => none
    | .error reason => some ⟨outcome.1, reason⟩

/-- Some of the files that are refused are left out, and nothing else. -/
inductive Thins : List Schema → List (String × Except Failure Schema) →
    List (String × Except Failure Schema) → Prop
  | nil {admitted : List Schema} : Thins admitted [] []
  | kept {admitted : List Schema} {load : String × Except Failure Schema}
      {loads fewer : List (String × Except Failure Schema)}
      (hrest : Thins (admitted ++ (fate admitted load.2).toOption.toList) loads fewer) :
      Thins admitted (load :: loads) (load :: fewer)
  | dropped {admitted : List Schema} {load : String × Except Failure Schema}
      {loads fewer : List (String × Except Failure Schema)} {reason : Failure}
      (hrefused : fate admitted load.2 = .error reason) (hrest : Thins admitted loads fewer) :
      Thins admitted (load :: loads) fewer

def extending (schemas : List Schema) (source : String) : List String :=
  (schemas.filter fun schema => schema.patchSource = some source).map (·.name)

end Discovery

namespace Registry

open Discovery

def loads (registry : Registry) (files : FileSystem) (host : List String) :
    List (String × Except Failure Schema) :=
  (registry.filesFound files host).map fun path => (path, Discovery.load files path)

def lostRoots (registry : Registry) (files : FileSystem) (host : List String) : List Loss :=
  (registry.allRoots host).filterMap fun root =>
    match scan files root with
    | .ok _ => none
    | .error reason => some ⟨root, reason⟩

/-- Registers schemas one after the other, and none in place of another. -/
def insertAll (registry : Registry) (schemas : List Schema) : Except Failure Registry :=
  schemas.foldlM (fun registry schema => registry.insert schema false) registry

/-- Discovery with files that are read at the same time, by what it comes to: all files are loaded,
and then what they have loaded is registered in order. -/
def Discovers (registry : Registry) (files : FileSystem) (host : List String)
    (outcome : Registry × Report) : Prop :=
  ∃ taken, Loading.Run files (Loading.start (registry.filesFound files host)) ⟨taken, []⟩ ∧
    outcome = taken.foldl (fun state load => admitLoaded state load.1 load.2)
      (registry.emptied, ⟨[], registry.lostRoots files host⟩)

/-- A registry has these schemas and no others, each name once. Every schema has those that extend it
as extensions, in their order, and what extends no registered schema waits, in the same order. -/
structure Consists (registry : Registry) (schemas : List Schema) : Prop where
  names : registry.names.Perm (schemas.map (·.name))
  distinct : (schemas.map (·.name)).Nodup
  catalog : ∀ name, Entries.get? registry.catalog name =
    (schemas.find? fun schema => schema.name = name).map fun schema =>
      { schema with extensions := extending schemas name }
  ledger : ∀ source, Entries.get? registry.ledger.pending source =
    if source ∈ schemas.map (·.name) ∨ extending schemas source = [] then none
    else some (extending schemas source)

/-- How a registry that has some schemas answers the views. -/
structure Holds (registry : Registry) (schemas : List Schema) : Prop where
  agrees : LinkLog.Agrees registry (schemas.flatMap LinkLog.ofSchema)
  loaded : ∀ name, registry.loaded? name = schemas.find? fun schema => schema.name = name
  distinct : (schemas.map (·.name)).Nodup
  unkept : ∀ name, registry.memo? name = none

end Registry

/-! ## Fates -/

namespace Discovery

variable {admitted : List Schema} {loads fewer : List (String × Except Failure Schema)}

theorem fate_eq_ok_iff {loaded : Except Failure Schema} {schema : Schema} :
    fate admitted loaded = .ok schema ↔ loaded = .ok schema ∧
      schema.patchSource ≠ some schema.name ∧
      (admitted.find? fun other => other.name = schema.name) = none := by
  cases loaded with
  | error reason =>
    constructor
    · intro h
      cases h
    · rintro ⟨h, -⟩
      cases h
  | ok other =>
    unfold fate
    rw [ok_bind]
    constructor
    · intro h
      split at h
      · cases h
      · next houtward =>
        split at h
        · cases h
        · next hfree =>
          cases h
          exact ⟨rfl, houtward, hfree⟩
    · rintro ⟨h, houtward, hfree⟩
      cases h
      rw [if_neg houtward, hfree]

/-- There is one outcome for each file. -/
theorem paths_fates : (fates admitted loads).map (·.1) = loads.map (·.1) := by
  induction loads generalizing admitted with
  | nil => rfl
  | cons load loads ih =>
    obtain ⟨path, loaded⟩ := load
    rw [fates, List.map_cons, List.map_cons, ih]

/-- What is refused has no part in what is admitted. -/
theorem accepted_of_thins (h : Thins admitted loads fewer) :
    accepted (fates admitted fewer) = accepted (fates admitted loads) := by
  induction h with
  | nil => rfl
  | @kept admitted load loads fewer hrest ih =>
    unfold accepted at ih ⊢
    rw [fates, fates, List.filterMap_cons, List.filterMap_cons, ih]
  | @dropped admitted load loads fewer reason hrefused hrest ih =>
    have hnone : fates admitted (load :: loads) = (load.1, .error reason) :: fates admitted loads := by
      rw [fates, hrefused]
      simp [Except.toOption]
    rw [hnone, ih]
    rfl

/-- Files that are all refused can be left out. -/
theorem thins_filter {kept : String → Bool}
    (hrefused : ∀ outcome ∈ fates admitted loads, kept outcome.1 = false →
      ∃ reason, outcome.2 = .error reason) :
    Thins admitted loads (loads.filter fun load => kept load.1) := by
  induction loads generalizing admitted with
  | nil => exact .nil
  | cons load loads ih =>
    obtain ⟨path, loaded⟩ := load
    rw [fates, List.forall_mem_cons] at hrefused
    obtain ⟨hfirst, hrest⟩ := hrefused
    rw [List.filter_cons]
    dsimp only at hfirst ⊢
    cases hkept : kept path with
    | true =>
      rw [if_pos rfl]
      exact .kept (ih hrest)
    | false =>
      obtain ⟨reason, hreason⟩ := hfirst hkept
      rw [if_neg Bool.false_ne_true]
      refine .dropped hreason (ih fun outcome houtcome => hrest outcome ?_)
      rw [hreason]
      simpa [Except.toOption] using houtcome

end Discovery

namespace Registry

open Discovery

variable {registry : Registry} {admitted : List Schema} {schema : Schema}

/-! ## Holding schemas -/

theorem Holds.emptied (registry : Registry) : Holds registry.emptied [] where
  agrees := .emptied registry
  loaded _ := rfl
  distinct := List.nodup_nil
  unkept _ := rfl

/-- A schema of a new name is held behind the others. -/
theorem Holds.enter (h : Holds registry admitted) (hbare : schema.extensions = [] ∧ schema.memo = none)
    (houtward : schema.patchSource ≠ some schema.name)
    (hfree : (admitted.find? fun other => other.name = schema.name) = none) :
    Holds (registry.enter schema true) (admitted ++ [schema]) := by
  have hnew : registry.loaded? schema.name = none := (h.loaded _).trans hfree
  have hloaded : schema.asLoaded = schema := by
    cases schema
    cases hbare.1
    cases hbare.2
    rfl
  refine ⟨?_, fun name => ?_, ?_, fun name => ?_⟩
  · rw [List.flatMap_append, List.flatMap_singleton]
    exact h.agrees.enter hnew hbare.1 houtward
  · rw [loaded?_enter, hloaded, List.find?_append, ← h.loaded]
    by_cases hname : name = schema.name
    · rw [if_pos hname, hname, hnew]
      simp
    · rw [if_neg hname]
      simp [Ne.symm hname]
  · rw [List.map_append, List.map_singleton, List.nodup_append]
    refine ⟨h.distinct, List.pairwise_singleton _ _, ?_⟩
    intro name hname other hother
    obtain ⟨taken, htaken, rfl⟩ := List.mem_map.1 hname
    rw [List.mem_singleton.1 hother]
    simpa using List.find?_eq_none.1 hfree taken htaken
  · cases hm : (registry.enter schema true).memo? name with
    | none => rfl
    | some memo =>
      have hold := memo?_enter hbare.2 hm
      rw [h.unkept] at hold
      cases hold

/-- Registering what was loaded comes to its fate. -/
theorem registerLoaded_eq_fate (h : Holds registry admitted) (loaded : Except Failure Schema) :
    registry.registerLoaded loaded false =
      (fate admitted loaded).map fun schema => (schema.name, registry.enter schema true) := by
  cases loaded with
  | error reason => rfl
  | ok schema =>
    unfold registerLoaded fate insert
    rw [ok_bind, ok_bind]
    by_cases hself : schema.patchSource = some schema.name
    · rw [if_pos hself, if_pos hself]
      rfl
    · rw [if_neg hself, if_neg hself, ← h.loaded]
      cases hget : Entries.get? registry.catalog schema.name with
      | none =>
        rw [loaded?_eq_none_iff.2 hget]
        rfl
      | some existing =>
        rw [loaded?_of_some hget]
        rfl

theorem admitLoaded_eq_fate (h : Holds registry admitted) (report : Report) (path : String)
    (loaded : Except Failure Schema) :
    admitLoaded (registry, report) path loaded =
      match fate admitted loaded with
      | .ok schema =>
        (registry.enter schema true, ⟨report.registered ++ [schema.name], report.losses⟩)
      | .error reason => (registry, ⟨report.registered, report.losses ++ [⟨path, reason⟩]⟩) := by
  unfold admitLoaded
  dsimp only
  rw [registerLoaded_eq_fate h]
  cases fate admitted loaded <;> rfl

/-- Registering what was loaded from files admits schemas, which can be registered by themselves, and
reports what comes of every file. -/
theorem foldl_admitLoaded {loads : List (String × Except Failure Schema)}
    (h : Holds registry admitted)
    (hbare : ∀ load ∈ loads, ∀ schema, load.2 = .ok schema →
      schema.extensions = [] ∧ schema.memo = none) (report : Report) :
    ∃ after, registry.insertAll (accepted (fates admitted loads)) = .ok after ∧
      Holds after (admitted ++ accepted (fates admitted loads)) ∧
      loads.foldl (fun state load => admitLoaded state load.1 load.2) (registry, report) =
        (after, ⟨report.registered ++ (accepted (fates admitted loads)).map (·.name),
          report.losses ++ refused (fates admitted loads)⟩) := by
  induction loads generalizing registry admitted report with
  | nil => exact ⟨registry, rfl, by simpa [accepted, fates] using h, by simp [accepted, refused, fates]⟩
  | cons load loads ih =>
    obtain ⟨path, loaded⟩ := load
    have hrest := fun load hload => hbare load (List.mem_cons_of_mem _ hload)
    rw [List.foldl_cons, admitLoaded_eq_fate h]
    cases hfate : fate admitted loaded with
    | error reason =>
      have hfates : fates admitted ((path, loaded) :: loads) =
          (path, .error reason) :: fates admitted loads := by
        rw [fates, hfate]
        simp [Except.toOption]
      obtain ⟨after, hall, hholds, hfold⟩ := ih h hrest
        ⟨report.registered, report.losses ++ [⟨path, reason⟩]⟩
      refine ⟨after, ?_, ?_, ?_⟩
      · rw [hfates]
        exact hall
      · rw [hfates]
        exact hholds
      · rw [hfates]
        dsimp only
        rw [hfold]
        simp [accepted, refused, Except.toOption]
    | ok schema =>
      obtain ⟨hloaded, houtward, hfree⟩ := fate_eq_ok_iff.1 hfate
      have hfates : fates admitted ((path, loaded) :: loads) =
          (path, .ok schema) :: fates (admitted ++ [schema]) loads := by
        rw [fates, hfate]
        rfl
      have haccepted : accepted (fates admitted ((path, loaded) :: loads)) =
          schema :: accepted (fates (admitted ++ [schema]) loads) := by
        rw [hfates]
        rfl
      have hschema := hbare _ List.mem_cons_self schema hloaded
      obtain ⟨after, hall, hholds, hfold⟩ := ih (h.enter hschema houtward hfree) hrest
        ⟨report.registered ++ [schema.name], report.losses⟩
      refine ⟨after, ?_, ?_, ?_⟩
      · rw [haccepted]
        unfold insertAll
        rw [List.foldlM_cons, insert_new houtward ((h.loaded _).trans hfree), ok_bind]
        exact hall
      · rw [haccepted, List.append_cons]
        exact hholds
      · dsimp only
        rw [hfold, haccepted, hfates]
        simp [refused]

/-- What answers the views like some schemas consists of them. -/
theorem Holds.consists (h : Holds registry admitted) : registry.Consists admitted := by
  have hlinked : ∀ source, registry.linked source = extending admitted source := by
    intro source
    rw [h.agrees.linked, extensionsOf_flatMap]
    rfl
  have hmem : ∀ name, registry.loaded? name ≠ none ↔ name ∈ admitted.map (·.name) := by
    intro name
    rw [h.loaded, Ne, List.find?_eq_none]
    simp
  refine ⟨?_, h.distinct, fun name => ?_, fun source => ?_⟩
  · have hkeys : registry.names.Nodup := h.agrees.tidy.ascends.nodup_keys
    refine (List.perm_ext_iff_of_nodup hkeys h.distinct).2 fun name => ?_
    rw [← hmem]
    unfold names
    rw [← Entries.get?_isSome_iff, Option.isSome_iff_ne_none, Ne, Ne, loaded?_eq_none_iff]
  · rw [← h.loaded, ← hlinked]
    cases hget : Entries.get? registry.catalog name with
    | none =>
      rw [loaded?_eq_none_iff.2 hget]
      rfl
    | some schema =>
      have hmemo := h.unkept name
      unfold memo? at hmemo
      rw [hget] at hmemo
      rw [loaded?_of_some hget, linked_of_some hget]
      cases schema
      cases hmemo
      rfl
  · rw [h.agrees.tidy.get?_pending, hlinked]
    by_cases hnil : extending admitted source = []
    · rw [if_neg fun hand => hand.2 hnil, if_pos (Or.inr hnil)]
    · by_cases hnone : registry.loaded? source = none
      · rw [if_pos ⟨hnone, hnil⟩, if_neg]
        rintro (hregistered | hnil')
        · exact (hmem source).2 hregistered hnone
        · exact hnil hnil'
      · rw [if_neg fun hand => hnone hand.1, if_pos (Or.inl ((hmem source).1 hnone))]

/-! ## Discovery -/

theorem loads_bare {files : FileSystem} {host : List String} :
    ∀ load ∈ registry.loads files host, ∀ schema, load.2 = .ok schema →
      schema.extensions = [] ∧ schema.memo = none := by
  intro load hload schema hschema
  obtain ⟨path, -, rfl⟩ := List.mem_map.1 hload
  exact @Handle.load_bare (.found files path) schema hschema

/-- A discovery registers what was loaded from files, in order. -/
theorem discover_eq_foldl (registry : Registry) (files : FileSystem) (host : List String) :
    registry.discover files host =
      (registry.loads files host).foldl (fun state load => admitLoaded state load.1 load.2)
        (registry.emptied, ⟨[], registry.lostRoots files host⟩) := by
  unfold loads filesFound lostRoots discover
  dsimp only
  rw [List.foldl_map, List.flatMap_map, List.filterMap_map]
  rfl

theorem discovers_iff {files : FileSystem} {host : List String} {outcome : Registry × Report} :
    registry.Discovers files host outcome ↔ outcome = registry.discover files host := by
  unfold Discovers
  rw [discover_eq_foldl]
  constructor
  · rintro ⟨taken, hrun, rfl⟩
    rw [Loading.taken_of_run.1 hrun]
    rfl
  · rintro rfl
    exact ⟨_, Loading.taken_of_run.2 rfl, rfl⟩

/-- What a discovery comes to, by the schemas that it admits. -/
theorem discover_eq (registry : Registry) (files : FileSystem) (host : List String) :
    let outcomes := fates [] (registry.loads files host)
    ∃ after, registry.emptied.insertAll (accepted outcomes) = .ok after ∧
      after.Consists (accepted outcomes) ∧
      registry.discover files host = (after, ⟨(accepted outcomes).map (·.name),
        registry.lostRoots files host ++ refused outcomes⟩) := by
  obtain ⟨after, hall, hholds, hfold⟩ := foldl_admitLoaded (Holds.emptied registry)
    (@loads_bare registry files host) ⟨[], registry.lostRoots files host⟩
  exact ⟨after, hall, hholds.consists, (discover_eq_foldl registry files host).trans hfold⟩

/-! ## Missing files -/

variable {files less : FileSystem} {host : List String}

/-- A discovery that lacks some refused files, and nothing else, comes to the same. -/
theorem discover_of_thins {host' : List String}
    (h : Thins [] (registry.loads files host) (registry.loads less host')) :
    (registry.discover less host').1 = (registry.discover files host).1 ∧
      (registry.discover less host').2.registered = (registry.discover files host).2.registered := by
  obtain ⟨after, hall, -, heq⟩ := discover_eq registry files host
  obtain ⟨after', hall', -, heq'⟩ := discover_eq registry less host'
  rw [accepted_of_thins h] at hall' heq'
  rw [heq, heq']
  exact ⟨Except.ok.inj (hall'.symm.trans hall), rfl⟩

/-- What is found are files. -/
theorem place_of_mem_loads (h : files.root.Proper) {load : String × Except Failure Schema}
    (hload : load ∈ registry.loads files host) : ∃ place bytes, files.place load.1 = .ok place ∧
      files.root.descend? place = some (.file bytes) := by
  obtain ⟨path, hpath, rfl⟩ := List.mem_map.1 hload
  obtain ⟨root, -, hfound⟩ := List.mem_flatMap.1 hpath
  cases hscan : scan files root with
  | error reason =>
    rw [hscan] at hfound
    cases hfound
  | ok paths =>
    rw [hscan] at hfound
    obtain ⟨place, entries, hplace, hentries, rfl⟩ := scan_eq_ok_iff.1 hscan
    obtain ⟨name, hname, rfl⟩ := List.mem_map.1 hfound
    obtain ⟨hleads, bytes, hfile⟩ := place_schemaPath h hplace hentries hname
    exact ⟨_, bytes, hleads, hfile⟩

/-- Without a file, the others load what they have loaded. -/
theorem loads_delete (h : files.root.Proper) (gone : List String) :
    registry.loads (files.delete gone) host =
      (registry.loads files host).filter fun load => (files.place load.1).toOption ≠ some gone := by
  have hfound : registry.filesFound (files.delete gone) host =
      (registry.filesFound files host).filter fun path => (files.place path).toOption ≠ some gone := by
    unfold filesFound
    rw [List.filter_flatMap]
    refine congrArg List.flatten (List.map_congr_left fun root _ => ?_)
    rw [scan_delete h]
    cases scan files root <;> rfl
  unfold loads
  rw [hfound, List.filter_map]
  refine List.map_congr_left fun path hpath => ?_
  obtain ⟨hpath, hkept⟩ := List.mem_filter.1 hpath
  obtain ⟨place, bytes, hplace, hfile⟩ :=
    @place_of_mem_loads registry files host h _ (List.mem_map.2 ⟨path, hpath, rfl⟩)
  rw [load_delete hplace hfile]
  rintro rfl
  rw [hplace] at hkept
  exact absurd rfl (of_decide_eq_true hkept)

theorem loads_deleted (h : files.root.Proper) (places : List (List String)) :
    registry.loads (places.foldl FileSystem.delete files) host =
      (registry.loads files host).filter fun load =>
        ∀ place ∈ places, (files.place load.1).toOption ≠ some place := by
  induction places generalizing files with
  | nil => exact (List.filter_eq_self.2 (by simp)).symm
  | cons gone places ih =>
    rw [List.foldl_cons, ih (Files.FileSystem.proper_delete h gone), loads_delete h,
      List.filter_filter]
    refine List.filter_congr fun load hload => ?_
    obtain ⟨place, bytes, hplace, -⟩ := place_of_mem_loads h hload
    by_cases hgone : place = gone
    · simp [hplace, hgone, Except.toOption]
    · rw [Files.FileSystem.place_delete_of_ne hplace hgone, hplace]
      simp [hgone, Except.toOption]

/-- When files are deleted that are refused wherever they are found, only these are missing. -/
theorem thins_deleted (h : files.root.Proper) {places : List (List String)}
    (hrefused : ∀ outcome ∈ fates [] (registry.loads files host), ∀ place ∈ places,
      files.place outcome.1 = .ok place → ∃ reason, outcome.2 = .error reason) :
    Thins [] (registry.loads files host)
      (registry.loads (places.foldl FileSystem.delete files) host) := by
  rw [loads_deleted h]
  refine @thins_filter _ _ (fun path => ∀ place ∈ places, (files.place path).toOption ≠ some place)
    fun outcome houtcome hgone => ?_
  rw [decide_eq_false_iff_not] at hgone
  cases hend : outcome.2 with
  | error reason => exact ⟨reason, rfl⟩
  | ok schema =>
    refine absurd (fun place hplace hleads => ?_) hgone
    obtain ⟨reason, hreason⟩ :=
      hrefused outcome houtcome place hplace (toOption_eq_some_iff.1 hleads)
    rw [hend] at hreason
    cases hreason

/-! ## Top theorem -/

/-- Whatever the registry was and in whatever order the files come to be read, a discovery forgets all
schemas and registers those of the files that it finds, root by root and in order of the names. What
comes of each file is its fate: the first schema of a name is admitted, and the registry afterwards
consists of the admitted schemas, which can be registered by themselves. The report has the name of
each of them, and the reason for each other file and each root that cannot be scanned. Any discovery
that lacks some of the refused files, and none of the others, leads to the same registry and
registers the same names; and that is how it is when files are deleted that are refused. -/
theorem discover_registers (registry : Registry) (files : FileSystem) (host : List String) :
    let outcomes := fates [] (registry.loads files host)
    let (after, report) := registry.discover files host
    (∀ outcome, registry.Discovers files host outcome ↔ outcome = (after, report)) ∧
    (files.root.Proper → ∀ root ∈ registry.allRoots host, ∀ paths, scan files root = .ok paths →
      ∃ names : List String, names.Pairwise (· < ·) ∧ paths = names.map (schemaPath root)) ∧
    outcomes.map (·.1) = registry.filesFound files host ∧
    registry.emptied.insertAll (accepted outcomes) = .ok after ∧
    after.Consists (accepted outcomes) ∧
    report.registered = (accepted outcomes).map (·.name) ∧
    report.losses = registry.lostRoots files host ++ refused outcomes ∧
    (∀ files' host', Thins [] (registry.loads files host) (registry.loads files' host') →
      (registry.discover files' host').1 = after ∧
        (registry.discover files' host').2.registered = report.registered) ∧
    (files.root.Proper → ∀ places : List (List String),
      (∀ outcome ∈ outcomes, ∀ place ∈ places, files.place outcome.1 = .ok place →
        ∃ reason, outcome.2 = .error reason) →
      (registry.discover (places.foldl FileSystem.delete files) host).1 = after ∧
        (registry.discover (places.foldl FileSystem.delete files) host).2.registered =
          report.registered) := by
  intro outcomes
  obtain ⟨after, hall, hconsists, heq⟩ := discover_eq registry files host
  have hthins : ∀ files' host', Thins [] (registry.loads files host) (registry.loads files' host') →
      (registry.discover files' host').1 = after ∧
        (registry.discover files' host').2.registered = (accepted outcomes).map (·.name) := by
    intro files' host' h
    have hsame := discover_of_thins h
    rwa [heq] at hsame
  rw [heq]
  refine ⟨fun outcome => by rw [discovers_iff, heq], ?_, ?_, hall, hconsists, rfl, rfl, hthins,
    fun hproper places hrefused => hthins _ host (thins_deleted hproper hrefused)⟩
  · intro hproper root _ paths hscan
    exact scan_ascends hproper hscan
  · show (fates _ _).map _ = _
    rw [paths_fates, loads, List.map_map]
    exact List.map_id _

/-- A component at the root with some schema files beside each other. -/
def shelf (texts : List (String × String)) : FileSystem :=
  ⟨.directory [("schema", .directory (texts.map fun entry => (entry.1, .file entry.2.toUTF8)))], "/"⟩

theorem shelf_proper {texts : List (String × String)} (h : Entries.Ascending texts)
    (hnames : ∀ entry ∈ texts, '/' ∉ entry.1.toList) : (shelf texts).root.Proper := by
  refine .directory (List.pairwise_singleton _ _) ?_ (List.forall_mem_singleton.2 (.directory ?_ ?_ ?_))
  · exact List.forall_mem_singleton.2 (show '/' ∉ "schema".toList by decide)
  · exact List.pairwise_map.2 h
  · exact List.forall_mem_map.2 hnames
  · exact List.forall_mem_map.2 fun _ _ => .file _

theorem place_shelf (texts : List (String × String)) : (shelf texts).place "/" = .ok [] := by
  have hparts : Files.parts (Files.join "/" "/") = [.root] := by decide +kernel
  refine Files.FileSystem.place_eq_ok_iff.2 ⟨by decide, ?_⟩
  rw [show (shelf texts).current = "/" from rfl, hparts]
  exact .root (.root .done)

theorem schemaNames_shelf {texts : List (String × String)}
    (h : ∀ entry ∈ texts, isSchemaFile entry.1 = true) :
    schemaNames (shelf texts).root = texts.map (·.1) := by
  show ((texts.map _).filter _).map _ = _
  rw [List.filter_eq_self.2, List.map_map]
  · rfl
  · exact List.forall_mem_map.2 fun entry hentry => by
      dsimp only
      rw [h entry hentry]
      rfl

theorem load_shelf {texts : List (String × String)} (h : (shelf texts).root.Proper)
    (hnames : ∀ entry ∈ texts, isSchemaFile entry.1 = true) {name text : String}
    (hmem : (name, text) ∈ texts) :
    (shelf texts).place (schemaPath "/" name) = .ok ["schema", name] ∧
      load (shelf texts) (schemaPath "/" name) = Schema.ofText (schemaPath "/" name) text := by
  have hname : name ∈ schemaNames (shelf texts).root := by
    rw [schemaNames_shelf hnames]
    exact List.mem_map.2 ⟨_, hmem, rfl⟩
  have hleads := (place_schemaPath h (place_shelf texts) rfl hname).1
  obtain ⟨hisName, inner, -, hinner, -⟩ := of_mem_schemaNames h hname
  have hfile : (shelf texts).root.descend? ["schema", name] = some (.file text.toUTF8) := by
    refine (@Files.Tree.descend?_concat _ _ ["schema"] name).2 ⟨inner, hinner, ?_⟩
    cases h.descend? hinner with
    | directory hascends _ _ =>
      refine Entries.get?_of_mem hascends ?_
      cases hinner
      exact List.mem_map.2 ⟨_, hmem, rfl⟩
  have hend : Text.endsWith '/' (schemaPath "/" name) = false :=
    Files.endsWith_join (by decide) hisName
  have hlookup : (shelf texts).lookup (schemaPath "/" name) = .ok (.file text.toUTF8) :=
    Files.FileSystem.lookup_eq_ok_iff.2 ⟨_, hleads, hfile, fun _ => hend⟩
  have htext : String.fromUTF8? text.toUTF8 = some text := dif_pos text.isValidUTF8
  refine ⟨hleads, ?_⟩
  unfold load Files.FileSystem.readText
  rw [hlookup, ok_bind]
  dsimp only
  rw [htext]

theorem scan_shelf {texts : List (String × String)}
    (h : ∀ entry ∈ texts, isSchemaFile entry.1 = true) :
    scan (shelf texts) "/" = .ok (texts.map fun entry => schemaPath "/" entry.1) := by
  refine scan_eq_ok_iff.2 ⟨[], _, place_shelf texts, rfl, ?_⟩
  show _ = (schemaNames (shelf texts).root).map _
  rw [schemaNames_shelf h, List.map_map]
  rfl

/-- A file that is no JSON and one with a schema. When the first one is deleted, all is as with it, but
that it is not reported. -/
theorem discover_registers_of_broken :
    let files := shelf [("broken.schema.json", "\x7b"), ("course.schema.json", "{}")]
    let fewer := files.delete ["schema", "broken.schema.json"]
    let registry := new {} ""
    let (after, report) := registry.discover files ["/"]
    files.root.Proper ∧ report.registered = ["course"] ∧
      report.losses.map (·.path) = ["/schema/broken.schema.json"] ∧
      Thins [] (registry.loads files ["/"]) (registry.loads fewer ["/"]) ∧
      (registry.discover fewer ["/"]).1 = after ∧
      (registry.discover fewer ["/"]).2.registered = ["course"] := by
  intro files fewer registry
  have hascends : Entries.Ascending [("broken.schema.json", "\x7b"), ("course.schema.json", "{}")] :=
    List.pairwise_pair.2 (by decide +kernel)
  have hproper : files.root.Proper := shelf_proper hascends (by decide +kernel)
  have hnames : ∀ entry ∈ [("broken.schema.json", "\x7b"), ("course.schema.json", "{}")],
      isSchemaFile entry.1 = true := by decide +kernel
  obtain ⟨-, hbroken⟩ := load_shelf hproper hnames (List.mem_cons_self)
  obtain ⟨hplace, hcourse⟩ := load_shelf hproper hnames (List.mem_cons_of_mem _ List.mem_cons_self)
  obtain ⟨reason, hreason⟩ : ∃ reason,
      Schema.ofText (schemaPath "/" "broken.schema.json") "\x7b" = .error reason := by
    have hfails : (Schema.ofText (schemaPath "/" "broken.schema.json") "\x7b").toOption.isSome = false := by
      decide +kernel
    cases hread : Schema.ofText (schemaPath "/" "broken.schema.json") "\x7b" with
    | error reason => exact ⟨reason, rfl⟩
    | ok schema =>
      rw [hread] at hfails
      cases hfails
  have hread : Json.Value.read "{}" = .ok (.object []) := by
    rw [← toOption_eq_some_iff]
    decide +kernel
  have hschema : Schema.ofText (schemaPath "/" "course.schema.json") "{}" =
      .ok ⟨"course", .object [], some (schemaPath "/" "course.schema.json"), none, [], none⟩ := by
    unfold Schema.ofText
    rw [hread]
    rfl
  have hloads : registry.loads files ["/"] =
      [(schemaPath "/" "broken.schema.json", .error reason), (schemaPath "/" "course.schema.json",
        .ok ⟨"course", .object [], some (schemaPath "/" "course.schema.json"), none, [], none⟩)] := by
    unfold loads filesFound
    rw [show registry.allRoots ["/"] = ["/"] from rfl, List.flatMap_singleton, scan_shelf hnames]
    show [(_, load files _), (_, load files _)] = _
    rw [hbroken, hreason, hcourse, hschema]
  have hlost : registry.lostRoots files ["/"] = [] := by
    unfold lostRoots
    rw [show registry.allRoots ["/"] = ["/"] from rfl, List.filterMap_cons, scan_shelf hnames]
    rfl
  have hrefused : ∀ outcome ∈ fates [] (registry.loads files ["/"]),
      ∀ place ∈ [["schema", "broken.schema.json"]], files.place outcome.1 = .ok place →
        ∃ reason, outcome.2 = .error reason := by
    rw [hloads]
    refine List.forall_mem_cons.2 ⟨fun _ _ _ => ⟨reason, rfl⟩, List.forall_mem_singleton.2 ?_⟩
    intro place hdeleted hleads
    rw [List.mem_singleton.1 hdeleted, hplace] at hleads
    exact absurd (Except.ok.inj hleads) (by decide)
  obtain ⟨-, -, -, -, -, hregistered, hlosses, -, hdeleted⟩ :=
    discover_registers registry files ["/"]
  obtain ⟨hafter, hsame⟩ := hdeleted hproper [["schema", "broken.schema.json"]] hrefused
  have hthins := thins_deleted hproper hrefused
  rw [hloads] at hregistered hlosses
  rw [hlost] at hlosses
  refine ⟨hproper, hregistered, ?_, hthins, hafter, hsame.trans hregistered⟩
  rw [hlosses]
  exact congrArg (fun path => [path]) (show schemaPath "/" "broken.schema.json" = _ by decide +kernel)

end Registry

end Schemata
