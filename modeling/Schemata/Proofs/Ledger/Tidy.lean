import Schemata.Ledger
import Schemata.Proofs.EntryOrder

/-!
# Tidy ledgers

The queues ascend by name, and none of them is empty. Every operation keeps a ledger so, and such a
ledger is nothing but what waits for each name: it has one entry for each name that something waits for.

    ledger.Tidy → (ledger.setPending n queue).Tidy                          (Tidy.setPending)
    a.Tidy → b.Tidy → (∀ n, a.pendingFor n = b.pendingFor n) → a = b        (Tidy.ext)
    n ∈ keys ledger.pending ↔ ledger.pendingFor n ≠ []                      (Tidy.mem_keys_iff)
    (ledger.withdraw n e).1 = true ↔ (ledger.withdraw n e).2 ≠ ledger       (Tidy.withdraw_fst_iff)
-/

namespace Schemata

/-- The queues ascend by name, and no queue is empty. -/
structure Ledger.Tidy (ledger : Ledger) : Prop where
  ascends : Entries.Ascending ledger.pending
  waiting : ∀ name, Entries.get? ledger.pending name ≠ some []

namespace Ledger

theorem tidy_empty : empty.Tidy := ⟨Entries.ascending_nil, fun _ h => nomatch h⟩

namespace Tidy

variable {ledger : Ledger}

theorem setPending (h : ledger.Tidy) (name : String) (queue : List String) :
    (ledger.setPending name queue).Tidy := by
  constructor
  · unfold Ledger.setPending
    split
    · exact h.ascends.without name
    · exact h.ascends.put name queue
  · intro other
    rw [get?_setPending]
    split
    · split
      · simp
      · next hne => simpa using hne
    · exact h.waiting other

theorem deferAll (h : ledger.Tidy) (awaited : String) (extensions : List String) :
    (extensions.foldl (fun ledger extension => ledger.defer awaited extension) ledger).Tidy := by
  induction extensions generalizing ledger with
  | nil => exact h
  | cons extension extensions ih => exact ih (h.setPending awaited _)

/-- What waits for a name is what is stored for it, and where nothing waits nothing is stored. -/
theorem get?_pending (h : ledger.Tidy) (name : String) :
    Entries.get? ledger.pending name =
      if ledger.pendingFor name = [] then none else some (ledger.pendingFor name) := by
  unfold pendingFor
  cases hqueue : Entries.get? ledger.pending name with
  | none => simp
  | some queue =>
    have hne : queue ≠ [] := fun he => h.waiting name (he ▸ hqueue)
    simp [hne]

theorem mem_keys_iff (h : ledger.Tidy) (name : String) :
    name ∈ Entries.keys ledger.pending ↔ ledger.pendingFor name ≠ [] := by
  rw [← Entries.get?_isSome_iff, h.get?_pending]
  by_cases hnil : ledger.pendingFor name = [] <;> simp [hnil]

theorem ne_nil_of_mem (h : ledger.Tidy) {entry : String × List String}
    (hmem : entry ∈ ledger.pending) : entry.2 ≠ [] := by
  intro hnil
  refine h.waiting entry.1 ?_
  rw [← hnil]
  exact Entries.get?_of_mem h.ascends hmem

/-- Tidy ledgers with the same queues are the same. -/
theorem ext {a b : Ledger} (ha : a.Tidy) (hb : b.Tidy)
    (h : ∀ name, a.pendingFor name = b.pendingFor name) : a = b := by
  have hpending : a.pending = b.pending := by
    refine ha.ascends.ext hb.ascends fun name => ?_
    rw [ha.get?_pending, hb.get?_pending, h]
  cases a
  cases b
  exact congrArg Ledger.mk hpending

theorem isEmpty_iff (h : ledger.Tidy) :
    ledger.isEmpty = true ↔ ∀ name, ledger.pendingFor name = [] := by
  constructor
  · intro hempty name
    unfold pendingFor
    rw [List.isEmpty_iff.1 hempty]
    rfl
  · intro hnothing
    rw [h.ext tidy_empty hnothing]
    rfl

/-- A withdrawal says that it took something out exactly if it left another ledger. -/
theorem withdraw_fst_iff (h : ledger.Tidy) (awaited extension : String) :
    (ledger.withdraw awaited extension).1 = true ↔
      (ledger.withdraw awaited extension).2 ≠ ledger := by
  show (ledger.pendingFor awaited).contains extension = true ↔ _
  rw [List.contains_iff_mem]
  constructor
  · intro hmem heq
    rw [← heq, pendingFor_withdraw, if_pos rfl] at hmem
    simp at hmem
  · intro hchanged
    by_cases hmem : extension ∈ ledger.pendingFor awaited
    · exact hmem
    · have hwithdrawn : (ledger.withdraw awaited extension).2.Tidy := h.setPending awaited _
      refine absurd (hwithdrawn.ext h fun name => ?_) hchanged
      rw [pendingFor_withdraw]
      split
      · next heq =>
        refine List.filter_eq_self.2 fun other hother => decide_eq_true ?_
        rintro rfl
        exact hmem (heq ▸ hother)
      · rfl

end Tidy

/-- A queue that is set is the only one that changes. -/
theorem get?_deferAll_of_ne {ledger : Ledger} {awaited name : String} (hne : name ≠ awaited)
    (extensions : List String) :
    Entries.get? (extensions.foldl (fun ledger extension => ledger.defer awaited extension)
      ledger).pending name = Entries.get? ledger.pending name := by
  induction extensions generalizing ledger with
  | nil => rfl
  | cons extension extensions ih => rw [List.foldl_cons, ih, defer, get?_setPending, if_neg hne]

end Ledger

end Schemata
