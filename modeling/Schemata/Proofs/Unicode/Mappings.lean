import Schemata.Unicode.Runs

/-!
# Runs of mappings

Whether a code point that a run maps to, or maps from, is mapped by another run can be told from the
ends of the two, so that facts about whole tables come down to comparing runs.

    run.avoids other, run maps c to image → other does not map image        (image?_of_avoids)
    the domains of earlier runs avoid a run that maps c to image
      → the whole table does                                             (findMapping?_of_mem)
-/

namespace Schemata.Unicode

/-! ## Algorithm -/

namespace MappingRun

/-- Whether no image of a run is a code point that another one maps: they lie apart, or one of two
code points is mapped and the images are the others. -/
def avoids (run other : MappingRun) : Bool :=
  Nat.blt (run.target + (run.count - 1) * run.step) other.start ||
    Nat.blt (other.start + (other.count - 1) * other.step) run.target ||
    ((other.count == 1 || other.step == 2) && (run.count == 1 || run.step == 2) &&
      run.target % 2 != other.start % 2)

/-- Whether all images of a run are characters. -/
def isValid (run : MappingRun) : Bool :=
  run.target + (run.count - 1) * run.step < 0xD800 ||
    (0xE000 ≤ run.target && run.target + (run.count - 1) * run.step < 0x110000)

/-- The run that maps each code point of a run to itself. -/
def domain (run : MappingRun) : MappingRun := { run with target := run.start }

end MappingRun

/-! ## Runs -/

variable {run other : MappingRun} {c image : Nat}

theorem toNat_ofNat {n : Nat} (h : n.isValidChar) : (Char.ofNat n).toNat = n := by
  unfold Char.ofNat
  rw [dif_pos h]
  rfl

/-- A code point of a run is some steps behind its start. -/
theorem MappingRun.image?_eq_some (h : run.image? c = some image) :
    ∃ i, i ≤ run.count - 1 ∧ c = run.start + i * run.step ∧ image = run.target + i * run.step := by
  unfold image? at h
  split at h
  · next hmapped =>
    cases h
    obtain ⟨hfrom, hto, hmultiple⟩ := hmapped
    obtain ⟨i, hi⟩ := Nat.dvd_of_mod_eq_zero hmultiple
    rw [Nat.mul_comm] at hi
    have hbelow : i < run.count := by
      refine Nat.lt_of_mul_lt_mul_right (a := run.step) ?_
      omega
    exact ⟨i, by omega, by omega, by rw [hi]⟩
  · cases h

/-- An image of a run that avoids another one is not mapped by the other one. -/
theorem MappingRun.image?_of_avoids (havoids : run.avoids other = true)
    (h : run.image? c = some image) : other.image? image = none := by
  obtain ⟨i, hi, -, rfl⟩ := image?_eq_some h
  cases hother : other.image? (run.target + i * run.step) with
  | none => rfl
  | some further =>
    obtain ⟨j, hj, heq, -⟩ := image?_eq_some hother
    have hlast := Nat.mul_le_mul_right run.step hi
    have hlast' := Nat.mul_le_mul_right other.step hj
    -- with steps of two, or without steps, all of them are odd or all even
    have hparity : ∀ {count step k : Nat}, count = 1 ∨ step = 2 → k ≤ count - 1 → k * step % 2 = 0 := by
      rintro count step k (rfl | rfl) hk
      · obtain rfl : k = 0 := by omega
        simp
      · omega
    unfold avoids at havoids
    simp only [Bool.or_eq_true, Bool.and_eq_true, Nat.blt_eq, beq_iff_eq, bne_iff_ne] at havoids
    rcases havoids with (hleft | hright) | ⟨⟨hone, htwo⟩, hodd⟩
    · omega
    · omega
    · have heven := hparity htwo hi
      have heven' := hparity hone hj
      omega

/-- The images of a valid run are characters. -/
theorem MappingRun.image_of_isValid (hvalid : run.isValid = true) (h : run.image? c = some image) :
    image.isValidChar := by
  obtain ⟨i, hi, -, rfl⟩ := image?_eq_some h
  have hlast := Nat.mul_le_mul_right run.step hi
  unfold isValid at hvalid
  simp only [Bool.or_eq_true, Bool.and_eq_true, decide_eq_true_eq] at hvalid
  unfold Nat.isValidChar
  omega

/-- The domain of a run maps what the run maps. -/
theorem MappingRun.domain_image? (h : run.image? c = some image) : run.domain.image? c = some c := by
  unfold image? at h ⊢
  split at h
  · next hmapped =>
    exact (if_pos hmapped).trans (congrArg some (Nat.add_sub_cancel' hmapped.1))
  · cases h

/-- The pairs of a run are the code points that it maps, with their images. -/
theorem MappingRun.mem_pairs (hstep : 0 < run.step) :
    (c, image) ∈ run.pairs ↔ run.image? c = some image := by
  unfold pairs
  rw [List.mem_map]
  constructor
  · rintro ⟨i, hi, heq⟩
    cases heq
    have hlast := (Nat.mul_lt_mul_right hstep).2 (List.mem_range.1 hi)
    unfold image?
    rw [if_pos ⟨Nat.le_add_right _ _, Nat.add_lt_add_left hlast _, by simp⟩, Nat.add_sub_cancel_left]
  · intro h
    obtain ⟨i, hi, rfl, rfl⟩ := image?_eq_some h
    have hcount : 0 < run.count := by
      refine Nat.pos_of_ne_zero fun hzero => ?_
      unfold image? at h
      rw [hzero, Nat.zero_mul] at h
      split at h
      · omega
      · cases h
    exact ⟨i, List.mem_range.2 (by omega), rfl⟩

/-! ## Tables -/

theorem findMapping?_of_avoids {runs : List MappingRun}
    (havoids : ∀ other ∈ runs, run.avoids other = true) (h : run.image? c = some image) :
    findMapping? runs image = none := by
  unfold findMapping?
  rw [List.findSome?_eq_none_iff]
  exact fun other hother => MappingRun.image?_of_avoids (havoids other hother) h

/-- A table whose runs have domains apart maps what each of its runs maps. -/
theorem findMapping?_of_mem {runs : List MappingRun}
    (hapart : runs.Pairwise fun run other => run.domain.avoids other = true) (hrun : run ∈ runs)
    (h : run.image? c = some image) : findMapping? runs c = some image := by
  induction runs with
  | nil => cases hrun
  | cons first runs ih =>
    obtain ⟨hfirst, hrest⟩ := List.pairwise_cons.1 hapart
    unfold findMapping?
    rw [List.findSome?_cons]
    rcases List.mem_cons.1 hrun with rfl | hrun
    · rw [h]
    · cases hother : first.image? c with
      | none => exact ih hrest hrun
      | some other =>
        have hnone := MappingRun.image?_of_avoids (hfirst run hrun) (MappingRun.domain_image? hother)
        rw [h] at hnone
        cases hnone

end Schemata.Unicode
