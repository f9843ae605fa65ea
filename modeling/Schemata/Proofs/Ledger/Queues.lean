import Mathlib.Data.List.DropRight
import Mathlib.Data.Set.Card
import Schemata.Proofs.Ledger.Tidy

/-!
# Queues of a history

A ledger seen through what was done to it. What waits for a name can be read off the history alone: the
extensions deferred for it since it was last emptied, without those that a later step withdraws from it.
The ledger has a queue for each name where that leaves something, and no other.

    waiting n (history ++ [step]) = step.onQueue n (waiting n history)        (waiting_concat)
    (ledger.perform step).pendingFor n = step.onQueue n (ledger.pendingFor n) (pendingFor_perform)
    (ofHistory history).pendingFor n = waiting n history                      (pendingFor_ofHistory)
    ledger.Tidy → there are ledger.size names that something waits for        (Tidy.encard_awaited)
    a ledger is the queues of its history                                     (queues_follow_history)
-/

namespace Schemata.Ledger

/-! ## Algorithm -/

/-- A step in the life of a ledger. -/
inductive Operation where
  /-- Lets an extension wait for a name. -/
  | defer (awaited extension : String)
  /-- Takes out everything that waits for a name. -/
  | drain (name : String)
  /-- Takes out an extension that waits for a name. -/
  | withdraw (awaited extension : String)
  /-- Takes out everything. -/
  | clear
  deriving DecidableEq, Repr

/-- The ledger after a step. -/
def perform (ledger : Ledger) : Operation → Ledger
  | .defer awaited extension => ledger.defer awaited extension
  | .drain name => (ledger.drain name).2
  | .withdraw awaited extension => (ledger.withdraw awaited extension).2
  | .clear => empty

/-- The ledger after some steps. -/
def run (ledger : Ledger) (operations : List Operation) : Ledger :=
  operations.foldl perform ledger

def ofHistory (history : List Operation) : Ledger := empty.run history

namespace Operation

/-- The one name that a step is about, if it is not about all of them. -/
def name? : Operation → Option String
  | .defer awaited _ => some awaited
  | .drain name => some name
  | .withdraw awaited _ => some awaited
  | .clear => none

/-- Whether nothing waits for a name after a step, whatever did before. -/
def empties (name : String) : Operation → Bool
  | .drain other => other = name
  | .clear => true
  | _ => false

/-- What a step makes of the queue of a name. -/
def onQueue (name : String) (queue : List String) : Operation → List String
  | .defer awaited extension => if name = awaited then queue ++ [extension] else queue
  | .drain other => if name = other then [] else queue
  | .withdraw awaited extension => if name = awaited then queue.filter (· ≠ extension) else queue
  | .clear => []

end Operation

/-- The extensions that some steps defer for a name and that none of the later ones withdraws from it,
in order of arrival. -/
def notWithdrawn (name : String) : List Operation → List String
  | [] => []
  | .defer awaited extension :: later =>
    if awaited = name ∧ .withdraw name extension ∉ later then extension :: notWithdrawn name later
    else notWithdrawn name later
  | _ :: later => notWithdrawn name later

/-- What a history lets wait for a name: of the extensions deferred for it since the last step that
emptied it, those that were not withdrawn later. -/
def waiting (name : String) (history : List Operation) : List String :=
  notWithdrawn name (history.rtakeWhile fun operation => !operation.empties name)

/-! ## Lemmas -/

namespace Operation

/-- A step about one name does nothing to the queues of others. -/
theorem onQueue_of_ne {operation : Operation} {name other : String}
    (habout : operation.name? = some name) (hne : other ≠ name) (queue : List String) :
    operation.onQueue other queue = queue := by
  cases operation with
  | clear => cases habout
  | _ =>
    cases habout
    exact if_neg hne

theorem onQueue_of_empties {operation : Operation} {name : String}
    (h : operation.empties name = true) (queue : List String) :
    operation.onQueue name queue = [] := by
  cases operation with
  | drain other => exact if_pos (of_decide_eq_true h).symm
  | clear => rfl
  | _ => cases h

/-- A step that does not empty a queue leaves its first extension there, unless it withdraws it. -/
theorem onQueue_cons {operation : Operation} {name : String}
    (h : operation.empties name = false) (extension : String) (queue : List String) :
    operation.onQueue name (extension :: queue) =
      if operation = .withdraw name extension then operation.onQueue name queue
      else extension :: operation.onQueue name queue := by
  cases operation with
  | defer awaited other =>
    unfold onQueue
    by_cases hname : name = awaited <;> simp [hname]
  | drain other =>
    have hne : name ≠ other := Ne.symm (of_decide_eq_false h)
    simp [onQueue, hne]
  | withdraw awaited other =>
    by_cases hname : name = awaited
    · by_cases hext : extension = other
      · simp [onQueue, hname, hext]
      · simp [onQueue, hname, hext, Ne.symm hext]
    · simp [onQueue, hname, Ne.symm hname]
  | clear => cases h

end Operation

/-! ### Read off the history -/

/-- A step that does not empty a queue does to what was not withdrawn what it does to the queue. -/
theorem notWithdrawn_concat {operation : Operation} {name : String}
    (h : operation.empties name = false) (operations : List Operation) :
    notWithdrawn name (operations ++ [operation]) =
      operation.onQueue name (notWithdrawn name operations) := by
  induction operations with
  | nil => cases operation <;> simp [notWithdrawn, Operation.onQueue, eq_comm]
  | cons first later ih =>
    cases first with
    | defer awaited extension =>
      rw [List.cons_append, notWithdrawn, notWithdrawn, ih]
      by_cases hawaited : awaited = name
      · by_cases hlater : .withdraw name extension ∈ later
        · simp [hlater]
        · by_cases hnow : operation = .withdraw name extension
          · simp [hawaited, hlater, hnow, Operation.onQueue_cons (hnow ▸ h)]
          · simp [hawaited, hlater, hnow, Ne.symm hnow, Operation.onQueue_cons h]
      · simp [hawaited]
    | _ => exact ih

/-- Each step does to what a history lets wait what it does to a queue. -/
theorem waiting_concat (name : String) (history : List Operation) (operation : Operation) :
    waiting name (history ++ [operation]) = operation.onQueue name (waiting name history) := by
  unfold waiting
  rw [List.rtakeWhile_concat]
  cases hempties : operation.empties name with
  | true => simp [Operation.onQueue_of_empties hempties, notWithdrawn]
  | false => simpa using notWithdrawn_concat hempties _

/-! ### Kept by the ledger -/

variable {ledger : Ledger}

theorem pendingFor_perform (ledger : Ledger) (operation : Operation) (name : String) :
    (ledger.perform operation).pendingFor name =
      operation.onQueue name (ledger.pendingFor name) := by
  cases operation with
  | defer awaited extension => exact pendingFor_defer ledger awaited extension name
  | drain other => exact pendingFor_drain ledger other name
  | withdraw awaited extension => exact pendingFor_withdraw ledger awaited extension name
  | clear => rfl

theorem Tidy.perform (h : ledger.Tidy) (operation : Operation) :
    (ledger.perform operation).Tidy := by
  cases operation with
  | defer awaited extension => exact h.setPending awaited _
  | drain name => exact h.setPending name []
  | withdraw awaited extension => exact h.setPending awaited _
  | clear => exact tidy_empty

theorem Tidy.run (h : ledger.Tidy) (operations : List Operation) : (ledger.run operations).Tidy := by
  induction operations generalizing ledger with
  | nil => exact h
  | cons operation operations ih => exact ih (h.perform operation)

theorem run_concat (ledger : Ledger) (operations : List Operation) (operation : Operation) :
    ledger.run (operations ++ [operation]) = (ledger.run operations).perform operation :=
  List.foldl_concat perform ledger operation operations

/-- The ledger of a history keeps what the history lets wait. -/
theorem pendingFor_ofHistory (history : List Operation) (name : String) :
    (ofHistory history).pendingFor name = waiting name history := by
  unfold ofHistory
  induction history using List.reverseRecOn with
  | nil => rfl
  | append_singleton history operation ih =>
    rw [run_concat, pendingFor_perform, ih, waiting_concat]

/-- A tidy ledger has as many queues as there are names that something waits for. -/
theorem Tidy.encard_awaited (h : ledger.Tidy) :
    {name | ledger.pendingFor name ≠ []}.encard = ledger.size := by
  have hkeys : {name | ledger.pendingFor name ≠ []} =
      ((Entries.keys ledger.pending).toFinset : Set String) := by
    ext name
    rw [Set.mem_ofPred_eq, Finset.mem_coe, List.mem_toFinset, h.mem_keys_iff]
  rw [hkeys, Set.encard_coe_eq_coe_finsetCard, List.toFinset_card_of_nodup h.ascends.nodup_keys]
  unfold Entries.keys size
  rw [List.length_map]

/-! ## Top theorem -/

/-- After every history of a ledger that starts empty: what waits for a name is what was deferred for it
since it was last drained or the ledger cleared, in order of arrival and as often as it was deferred,
without what was withdrawn from it later; draining the name gives just that. A withdrawal says yes
exactly if it takes something out. No queue is empty, so that the size is the number of names that
something waits for, and the ledger is empty exactly if nothing waits for any name. A step about one
name leaves what waits for the others. -/
theorem queues_follow_history (history : List Operation) :
    let ledger := ofHistory history
    (∀ name, ledger.pendingFor name = waiting name history ∧
      (ledger.drain name).1 = waiting name history) ∧
    (∀ awaited extension, (ledger.withdraw awaited extension).1 = true ↔
      (ledger.withdraw awaited extension).2 ≠ ledger) ∧
    (∀ entry ∈ ledger.pending, entry.2 ≠ []) ∧
    {name | waiting name history ≠ []}.encard = ledger.size ∧
    (ledger.isEmpty = true ↔ ∀ name, waiting name history = []) ∧
    ∀ operation name, operation.name? = some name → ∀ other, other ≠ name →
      (ledger.perform operation).pendingFor other = ledger.pendingFor other := by
  intro ledger
  have htidy : ledger.Tidy := tidy_empty.run history
  have hpending : ∀ name, ledger.pendingFor name = waiting name history :=
    pendingFor_ofHistory history
  refine ⟨fun name => ⟨hpending name, hpending name⟩, htidy.withdraw_fst_iff,
    fun entry hmem => htidy.ne_nil_of_mem hmem, ?_, ?_, ?_⟩
  · simp only [← hpending]
    exact htidy.encard_awaited
  · simp only [← hpending]
    exact htidy.isEmpty_iff
  · intro operation name habout other hne
    rw [pendingFor_perform, Operation.onQueue_of_ne habout hne]

/-- A course that is drained once; later one of its extensions is withdrawn and deferred again, and
another one comes twice. -/
def courses : List Operation := [
  .defer "course" "course-ext", .drain "course", .defer "course" "course-ext",
  .defer "course" "course-audit", .defer "lesson" "lesson-ext", .withdraw "course" "course-ext",
  .defer "course" "course-ext", .defer "course" "course-audit"]

/-- What is deferred again waits behind the other extensions of the course, and draining the lesson
leaves it there. -/
theorem queues_follow_history_of_courses :
    let ledger := ofHistory courses
    ledger.pendingFor "course" = ["course-audit", "course-ext", "course-audit"] ∧
    (ledger.drain "lesson").1 = ["lesson-ext"] ∧
    (ledger.withdraw "course" "course-audit").1 = true ∧
    (ledger.withdraw "lesson" "course-ext").2 = ledger ∧
    {name | waiting name courses ≠ []}.encard = 2 ∧
    ledger.isEmpty ≠ true ∧
    (ledger.perform (.drain "lesson")).pendingFor "course" = ledger.pendingFor "course" := by
  intro ledger
  obtain ⟨hqueues, hwithdraw, -, hsize, hempty, hapart⟩ := queues_follow_history courses
  have hcourse : waiting "course" courses = ["course-audit", "course-ext", "course-audit"] := by
    decide
  have hlesson : waiting "lesson" courses = ["lesson-ext"] := by decide
  refine ⟨(hqueues "course").1.trans hcourse, (hqueues "lesson").2.trans hlesson,
    (hwithdraw "course" "course-audit").2 (by decide), ?_, ?_, fun hnone => ?_, ?_⟩
  · by_contra hchanged
    exact absurd ((hwithdraw "lesson" "course-ext").2 hchanged) (by decide)
  · rw [hsize]
    rfl
  · rw [hempty.1 hnone "lesson"] at hlesson
    cases hlesson
  · exact hapart (.drain "lesson") "lesson" rfl "course" (by decide)

end Schemata.Ledger
