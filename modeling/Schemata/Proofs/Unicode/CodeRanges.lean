import Schemata.Unicode.Runs

/-!
# Ranges of code points

What sets of code points hold. Putting ranges in order and joining them where they touch neither adds
a code point nor loses one.

    ranges in order, joined, hold what they held                               (contains_joined)
    a union holds what one of the sets holds                                    (contains_union)
-/

namespace Schemata.Unicode.CodeRanges

variable {n : Nat} {ranges : List (Nat × Nat)} {left right : CodeRanges}

theorem contains_iff {set : CodeRanges} :
    contains set n = true ↔ ∃ range ∈ set, range.1 ≤ n ∧ n ≤ range.2 := by
  simp [contains]

theorem contains_cons {range : Nat × Nat} {set : CodeRanges} :
    contains (range :: set) n = true ↔ (range.1 ≤ n ∧ n ≤ range.2) ∨ contains set n = true := by
  simp [contains]

theorem contains_single {c d : Char} (h : contains (single c) d.toNat = true) : d = c := by
  obtain ⟨range, hmem, hlo, hhi⟩ := contains_iff.1 h
  rw [List.mem_singleton.1 hmem] at hlo hhi
  exact Char.toNat_inj.1 (Nat.le_antisymm hhi hlo)

/-- The first of joined ranges starts where the first range does. -/
theorem exists_of_joined {lo hi : Nat} {rest : CodeRanges} (h : joined ranges = (lo, hi) :: rest) :
    ∃ range ∈ ranges, range.1 = lo := by
  cases ranges with
  | nil => cases h
  | cons range ranges =>
    refine ⟨range, List.mem_cons_self, ?_⟩
    unfold joined at h
    split at h
    · cases h
      rfl
    · split at h
      · cases h
        rfl
      · cases h
        rfl

/-- Joining ranges in order of their starts keeps the code points. -/
theorem contains_joined (hsorted : ranges.Pairwise fun a b => a.1 ≤ b.1) :
    contains (joined ranges) n = true ↔ contains ranges n = true := by
  induction ranges with
  | nil => rfl
  | cons range ranges ih =>
    obtain ⟨lo, hi⟩ := range
    obtain ⟨hfirst, hrest⟩ := List.pairwise_cons.1 hsorted
    have hinner := ih hrest
    rw [contains_cons, ← hinner, joined]
    split
    · next hnone =>
      rw [contains_cons, hnone]
    · next lo' hi' tail hjoined =>
      obtain ⟨range, hrange, rfl⟩ := exists_of_joined hjoined
      have hle := hfirst range hrange
      rw [hjoined, contains_cons]
      split
      · next htouch =>
        rw [contains_cons]
        dsimp only at hle ⊢
        -- between the two there is no gap
        have hboth : (lo ≤ n ∧ n ≤ max hi hi') ↔ (lo ≤ n ∧ n ≤ hi) ∨ range.1 ≤ n ∧ n ≤ hi' := by
          omega
        rw [hboth, or_assoc]
      · rw [contains_cons, contains_cons]

theorem contains_ofList : contains (ofList ranges) n = true ↔ contains ranges n = true := by
  unfold ofList
  rw [contains_joined, contains_iff, contains_iff]
  · constructor
    · rintro ⟨range, hmem, hrange⟩
      exact ⟨range, (List.mem_filter.1 (List.mem_mergeSort.1 hmem)).1, hrange⟩
    · rintro ⟨range, hmem, hlo, hhi⟩
      have hproper : decide (range.1 ≤ range.2) = true := decide_eq_true (Nat.le_trans hlo hhi)
      exact ⟨range, List.mem_mergeSort.2 (List.mem_filter.2 ⟨hmem, hproper⟩), hlo, hhi⟩
  · refine (List.pairwise_mergeSort ?_ ?_ _).imp fun h => of_decide_eq_true h
    · intro a b c hab hbc
      simp only [decide_eq_true_eq] at hab hbc ⊢
      omega
    · intro a b
      simp only [Bool.or_eq_true, decide_eq_true_eq]
      omega

/-- A union holds what one of the two sets holds. -/
theorem contains_union :
    contains (union left right) n = true ↔ contains left n = true ∨ contains right n = true := by
  unfold union
  rw [contains_ofList]
  simp only [contains, List.any_append, Bool.or_eq_true]

end Schemata.Unicode.CodeRanges
