import Schemata.Proofs.Unicode.CodeRanges
import Schemata.Proofs.Unicode.Mappings
import Schemata.Unicode.CaseFold

/-!
# Simple case folding

Two code points are alike if they have one folding. A set is closed by what is like one of its code
points. The table is as it should be: its runs lie apart, and no folding is folded on.

    fold (fold c) = fold c                                                         (fold_fold)
    closeUnderCase set holds c ↔ set holds some e with fold e = fold c   (contains_closeUnderCase)
-/

namespace Schemata.Unicode

variable {c d folded : Nat} {set : CodeRanges}

/-! ## Table -/

/-- The runs map characters to characters, and to none that a run maps. -/
theorem foldRuns_avoid : ∀ run ∈ foldRuns,
    0 < run.step ∧ run.domain.isValid = true ∧ run.isValid = true ∧
      ∀ other ∈ foldRuns, run.avoids other = true := by
  have hall : (foldRuns.all fun run => Nat.blt 0 run.step && run.domain.isValid && run.isValid &&
      foldRuns.all run.avoids) = true := by decide +kernel
  intro run hrun
  have hthis := List.all_eq_true.1 hall run hrun
  rw [Bool.and_eq_true, Bool.and_eq_true, Bool.and_eq_true, Nat.blt_eq] at hthis
  exact ⟨hthis.1.1.1, hthis.1.1.2, hthis.1.2, List.all_eq_true.1 hthis.2⟩

theorem foldRuns_apart :
    foldRuns.Pairwise fun run other => run.domain.avoids other = true := by
  decide +kernel

/-! ## Foldings -/

theorem mem_foldPairs :
    (c, folded) ∈ foldPairs ↔ ∃ run ∈ foldRuns, run.image? c = some folded := by
  unfold foldPairs
  rw [List.mem_flatMap]
  exact exists_congr fun run => and_congr_right fun hrun =>
    MappingRun.mem_pairs (foldRuns_avoid run hrun).1

theorem fold_of_mem (h : (c, folded) ∈ foldPairs) : fold c = folded := by
  obtain ⟨run, hrun, himage⟩ := mem_foldPairs.1 h
  unfold fold
  rw [findMapping?_of_mem foldRuns_apart hrun himage]
  rfl

/-- A code point that is not folded to itself is in a pair of the table. -/
theorem fold_eq_or_mem (c : Nat) : fold c = c ∨ (c, fold c) ∈ foldPairs := by
  unfold fold
  cases hfound : findMapping? foldRuns c with
  | none => exact Or.inl rfl
  | some folded =>
    obtain ⟨run, hrun, himage⟩ := List.exists_of_findSome?_eq_some hfound
    exact Or.inr (mem_foldPairs.2 ⟨run, hrun, himage⟩)

theorem fold_of_mem_right (h : (c, folded) ∈ foldPairs) : fold folded = folded := by
  obtain ⟨run, hrun, himage⟩ := mem_foldPairs.1 h
  unfold fold
  rw [findMapping?_of_avoids (foldRuns_avoid run hrun).2.2.2 himage]
  rfl

/-- A folding is not folded on. -/
theorem fold_fold (c : Nat) : fold (fold c) = fold c := by
  rcases fold_eq_or_mem c with heq | hmem
  · rw [heq, heq]
  · exact fold_of_mem_right hmem

/-- Characters have characters for foldings, and nothing else has. -/
theorem isValidChar_fold : (fold c).isValidChar ↔ c.isValidChar := by
  rcases fold_eq_or_mem c with heq | hmem
  · rw [heq]
  · obtain ⟨run, hrun, himage⟩ := mem_foldPairs.1 hmem
    obtain ⟨-, hdomain, hvalid, -⟩ := foldRuns_avoid run hrun
    exact iff_of_true (MappingRun.image_of_isValid hvalid himage)
      (MappingRun.image_of_isValid hdomain (MappingRun.domain_image? himage))

theorem fold_upper (h : 65 ≤ c) (h' : c ≤ 90) : fold c = c + 32 := by
  have hall : ∀ i < 26, fold (65 + i) = 97 + i := by decide +kernel
  have hthis := hall (c - 65) (by omega)
  rw [Nat.add_sub_cancel' h] at hthis
  omega

theorem fold_lower (h : 97 ≤ c) (h' : c ≤ 122) : fold c = c := by
  have hall : ∀ i < 26, fold (97 + i) = 97 + i := by decide +kernel
  have hthis := hall (c - 97) (by omega)
  rwa [Nat.add_sub_cancel' h] at hthis

/-! ## Closed sets -/

theorem contains_map_single {pairs : List (Nat × Nat)} (pick : Nat × Nat → Nat) :
    CodeRanges.contains (CodeRanges.ofList (pairs.map fun pair => (pick pair, pick pair))) c = true ↔
      ∃ pair ∈ pairs, pick pair = c := by
  rw [CodeRanges.contains_ofList, CodeRanges.contains_iff]
  constructor
  · rintro ⟨range, hmem, hlo, hhi⟩
    obtain ⟨pair, hpair, rfl⟩ := List.mem_map.1 hmem
    exact ⟨pair, hpair, Nat.le_antisymm hlo hhi⟩
  · rintro ⟨pair, hpair, rfl⟩
    exact ⟨_, List.mem_map_of_mem hpair, Nat.le_refl _, Nat.le_refl _⟩

/-- A set is closed by all that has one folding with a code point of it. -/
theorem contains_closeUnderCase :
    (closeUnderCase set).contains c = true ↔ ∃ e, set.contains e = true ∧ fold e = fold c := by
  have htargets : ∀ {folded}, (∃ pair ∈ foldPairs.filter fun pair =>
      set.contains pair.1 || set.contains pair.2, pair.2 = folded) →
        ∃ e, set.contains e = true ∧ fold e = folded := by
    rintro _ ⟨⟨e, folded⟩, hpair, rfl⟩
    obtain ⟨hpair, hset⟩ := List.mem_filter.1 hpair
    rcases Bool.or_eq_true _ _ ▸ hset with hset | hset
    · exact ⟨e, hset, fold_of_mem hpair⟩
    · exact ⟨folded, hset, fold_of_mem_right hpair⟩
  unfold closeUnderCase
  simp only [CodeRanges.contains_union, contains_map_single]
  constructor
  · rintro (hc | htarget | ⟨⟨source, folded⟩, hpair, rfl⟩)
    · exact ⟨c, hc, rfl⟩
    · obtain ⟨e, he, heq⟩ := htargets htarget
      exact ⟨e, he, by rw [← heq, fold_fold]⟩
    · obtain ⟨hpair, htarget⟩ := List.mem_filter.1 hpair
      obtain ⟨e, he, heq⟩ := htargets ((contains_map_single _).1 htarget)
      exact ⟨e, he, by rw [heq, fold_of_mem hpair]⟩
  · rintro ⟨e, he, heq⟩
    by_cases hsame : e = c
    · exact Or.inl (hsame ▸ he)
    · -- one of the two is folded to something else, which brings the folding in
      have htarget : ∃ pair ∈ foldPairs.filter fun pair =>
          set.contains pair.1 || set.contains pair.2, pair.2 = fold c := by
        rcases fold_eq_or_mem e with hself | hmem
        · rcases fold_eq_or_mem c with hc | hmem
          · exact absurd (by rw [← hself, heq, hc]) hsame
          · refine ⟨(c, fold c), List.mem_filter.2 ⟨hmem, ?_⟩, rfl⟩
            rw [← heq, hself, he, Bool.or_true]
        · refine ⟨(e, fold e), List.mem_filter.2 ⟨hmem, ?_⟩, heq⟩
          rw [he, Bool.true_or]
      rcases fold_eq_or_mem c with hc | hmem
      · exact Or.inr (Or.inl (hc ▸ htarget))
      · refine Or.inr (Or.inr ⟨(c, fold c), List.mem_filter.2 ⟨hmem, ?_⟩, rfl⟩)
        exact (contains_map_single _).2 htarget

end Schemata.Unicode
