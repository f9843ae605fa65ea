import Mathlib.Logic.Relation
import Schemata.Discovery

/-!
# Loading files concurrently

Every file is read by a task of its own. The tasks come to their ends in any order, and what they
have loaded is taken in the order of the files: the first task that was not taken yet is waited for.
Whatever the order, each way to go on comes to an end, and then what was taken is what the files
load, one after the other.

    a step does not change what is to be taken in the end        (Loading.Step.expected_eq)
    as long as there are tasks there is a step                    (Loading.exists_step)
    no loading goes on forever                                     (Loading.step_wellFounded)
    all taken → taken = paths.map fun path => (path, load files path)   (Loading.taken_of_run)
-/

namespace Schemata.Discovery

open Files (FileSystem)

/-! ## Algorithm -/

/-- A task that loads the schema of a file, with what it has loaded once it has ended. -/
structure Task where
  /-- The path of the file. -/
  path : String
  /-- What was loaded. -/
  result : Option (Except Failure Schema)

/-- Loading under way. -/
structure Loading where
  /-- What was loaded and taken, in order. -/
  taken : List (String × Except Failure Schema)
  /-- The tasks whose results were not taken yet, in order. -/
  tasks : List Task

namespace Loading

/-- A task for each file, and none has ended. -/
def start (paths : List String) : Loading := ⟨[], paths.map fun path => ⟨path, none⟩⟩

/-- A task ends, wherever it stands; or the result of the first one is taken. -/
inductive Step (files : FileSystem) : Loading → Loading → Prop
  | finish {taken : List (String × Except Failure Schema)} {path : String} (before after : List Task) :
      Step files ⟨taken, before ++ ⟨path, none⟩ :: after⟩
        ⟨taken, before ++ ⟨path, some (load files path)⟩ :: after⟩
  | take {taken : List (String × Except Failure Schema)} {path : String}
      {loaded : Except Failure Schema} {tasks : List Task} :
      Step files ⟨taken, ⟨path, some loaded⟩ :: tasks⟩ ⟨taken ++ [(path, loaded)], tasks⟩

/-- Any number of steps. -/
abbrev Run (files : FileSystem) : Loading → Loading → Prop := Relation.ReflTransGen (Step files)

/-- What is going to be taken, all in all. -/
def expected (files : FileSystem) (loading : Loading) : List (String × Except Failure Schema) :=
  loading.taken ++
    loading.tasks.map fun task => (task.path, task.result.getD (load files task.path))

/-- How many steps there are to the end. -/
def remaining (loading : Loading) : Nat :=
  loading.tasks.length + loading.tasks.countP fun task => task.result.isNone

/-! ## Steps -/

variable {files : FileSystem} {loading next : Loading}

/-- A step does not change what is going to be taken. -/
theorem Step.expected_eq (h : Step files loading next) :
    next.expected files = loading.expected files := by
  cases h with
  | finish before after => simp [expected]
  | take => simp [expected]

/-- With each step there is one less to the end. -/
theorem Step.remaining_eq (h : Step files loading next) :
    loading.remaining = next.remaining + 1 := by
  cases h with
  | finish before after =>
    simp [remaining]
    omega
  | take =>
    simp [remaining]
    omega

/-- As long as there are tasks, the first one can end, or its result can be taken. -/
theorem exists_step (files : FileSystem) (h : loading.tasks ≠ []) :
    ∃ next, Step files loading next := by
  obtain ⟨taken, tasks⟩ := loading
  cases tasks with
  | nil => exact absurd rfl h
  | cons task tasks =>
    obtain ⟨path, result⟩ := task
    cases result with
    | none => exact ⟨_, .finish [] tasks⟩
    | some loaded => exact ⟨_, .take⟩

/-- No loading goes on forever. -/
theorem step_wellFounded (files : FileSystem) :
    WellFounded fun next loading => Step files loading next :=
  Subrelation.wf (fun {_ _} h => by
    show remaining _ < remaining _
    rw [h.remaining_eq]
    exact Nat.lt_succ_self _) (InvImage.wf remaining Nat.lt_wfRel.wf)

/-! ## Runs -/

theorem expected_of_run (h : Run files loading next) :
    next.expected files = loading.expected files := by
  induction h with
  | refl => rfl
  | tail _ hstep ih => rw [hstep.expected_eq, ih]

/-- Every loading can be brought to its end. -/
theorem exists_run (files : FileSystem) (loading : Loading) :
    ∃ taken, Run files loading ⟨taken, []⟩ := by
  induction loading using (step_wellFounded files).induction with
  | _ loading ih =>
    obtain ⟨taken, tasks⟩ := loading
    cases tasks with
    | nil => exact ⟨taken, .refl⟩
    | cons task tasks =>
      obtain ⟨next, hstep⟩ := @exists_step ⟨taken, task :: tasks⟩ files (List.cons_ne_nil _ _)
      obtain ⟨all, hrun⟩ := ih next hstep
      exact ⟨all, .head hstep hrun⟩

/-- In the end, what was taken is what the files load, in their order. -/
theorem taken_of_run {paths : List String} {taken : List (String × Except Failure Schema)} :
    Run files (start paths) ⟨taken, []⟩ ↔ taken = paths.map fun path => (path, load files path) := by
  have hend : ∀ {taken}, Run files (start paths) ⟨taken, []⟩ →
      taken = paths.map fun path => (path, load files path) := by
    intro taken hrun
    have hexpected := expected_of_run hrun
    unfold expected start at hexpected
    rw [List.map_nil, List.append_nil, List.nil_append, List.map_map] at hexpected
    exact hexpected
  constructor
  · exact hend
  · rintro rfl
    obtain ⟨taken, hrun⟩ := exists_run files (start paths)
    rwa [hend hrun] at hrun

end Loading

end Schemata.Discovery
