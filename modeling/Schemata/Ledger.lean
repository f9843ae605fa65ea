import Schemata.Entries

/-!
# The extension ledger

Extensions that wait for the schema they extend. Each awaited name has a queue of extensions in
order of arrival; a name with nothing to wait for has no entry.
-/

namespace Schemata

/-- Queues of extensions by the name that they wait for; no queue is empty. -/
structure Ledger where
  /-- The queues. -/
  pending : Entries (List String)
  deriving DecidableEq, Repr

namespace Ledger

/-- The ledger in which nothing waits. -/
def empty : Ledger := ⟨[]⟩

/-- The extensions that wait for a name, in order of arrival. -/
def pendingFor (ledger : Ledger) (name : String) : List String :=
  (Entries.get? ledger.pending name).getD []

/-- The ledger with other extensions waiting for a name. -/
def setPending (ledger : Ledger) (name : String) (queue : List String) : Ledger :=
  if queue.isEmpty then ⟨Entries.without ledger.pending name⟩
  else ⟨Entries.put ledger.pending name queue⟩

/-- Lets an extension wait for a name. -/
def defer (ledger : Ledger) (awaited extension : String) : Ledger :=
  ledger.setPending awaited (ledger.pendingFor awaited ++ [extension])

/-- Takes out everything that waits for a name. -/
def drain (ledger : Ledger) (name : String) : List String × Ledger :=
  (ledger.pendingFor name, ledger.setPending name [])

/-- Takes out one extension that waits for a name, and says whether it did. -/
def withdraw (ledger : Ledger) (awaited extension : String) : Bool × Ledger :=
  let queue := ledger.pendingFor awaited
  (queue.contains extension, ledger.setPending awaited (queue.filter (· ≠ extension)))

/-- The number of awaited names. -/
def size (ledger : Ledger) : Nat := ledger.pending.length

/-- Whether nothing waits. -/
def isEmpty (ledger : Ledger) : Bool := ledger.pending.isEmpty

/-! ## Lemmas -/

theorem get?_setPending (ledger : Ledger) (name other : String) (queue : List String) :
    Entries.get? (ledger.setPending name queue).pending other =
      if other = name then (if queue = [] then none else some queue)
      else Entries.get? ledger.pending other := by
  unfold setPending
  cases queue with
  | nil => simp [Entries.get?_without]
  | cons extension queue => simp [Entries.get?_put]

theorem pendingFor_setPending (ledger : Ledger) (name other : String) (queue : List String) :
    (ledger.setPending name queue).pendingFor other =
      if other = name then queue else ledger.pendingFor other := by
  simp only [pendingFor, get?_setPending]
  by_cases ho : other = name
  · by_cases hq : queue = [] <;> simp [ho, hq]
  · simp [ho]

theorem pendingFor_defer (ledger : Ledger) (awaited extension other : String) :
    (ledger.defer awaited extension).pendingFor other =
      if other = awaited then ledger.pendingFor other ++ [extension]
      else ledger.pendingFor other := by
  rw [defer, pendingFor_setPending]
  split
  · next h => rw [h]
  · rfl

theorem pendingFor_withdraw (ledger : Ledger) (awaited extension other : String) :
    (ledger.withdraw awaited extension).2.pendingFor other =
      if other = awaited then (ledger.pendingFor other).filter (· ≠ extension)
      else ledger.pendingFor other := by
  rw [withdraw, pendingFor_setPending]
  split
  · next h => rw [h]
  · rfl

theorem pendingFor_drain (ledger : Ledger) (name other : String) :
    (ledger.drain name).2.pendingFor other =
      if other = name then [] else ledger.pendingFor other :=
  pendingFor_setPending ledger name other []

/-- One after the other, extensions come to wait in their order. -/
theorem pendingFor_deferAll (extensions : List String) (ledger : Ledger) (awaited other : String) :
    (extensions.foldl (fun ledger extension => ledger.defer awaited extension) ledger).pendingFor
        other =
      if other = awaited then ledger.pendingFor other ++ extensions
      else ledger.pendingFor other := by
  induction extensions generalizing ledger with
  | nil => simp
  | cons extension extensions ih =>
    rw [List.foldl_cons, ih, pendingFor_defer]
    split <;> simp

end Ledger

end Schemata
