import Schemata.Proofs.Unicode.Mappings
import Schemata.Unicode.LowerText

/-!
# Lower-case forms

A lower-case form is its own lower-case form. It is enough to compare the runs of the table with each
other: what a run maps to is nothing that a run maps.

    d is in the form of c → the form of d is d                    (lowercase_of_mem_lowercase)
    every character of s is its own form → lowerText s = s                 (lowerText_eq_self)
    lowerText (lowerText s) = lowerText s                               (lowerText_lowerText)
-/

namespace Schemata.Unicode

/-! ## Runs -/

/-- The images of all runs of the table are characters that no run maps. -/
theorem lowercaseRuns_avoid : ∀ run ∈ lowercaseRuns,
    run.isValid = true ∧ run.avoids ⟨304, 1, 1, 0⟩ = true ∧
      ∀ other ∈ lowercaseRuns, run.avoids other = true := by
  have hall : (lowercaseRuns.all fun run => run.isValid && run.avoids ⟨304, 1, 1, 0⟩ &&
      lowercaseRuns.all run.avoids) = true := by decide +kernel
  intro run hrun
  have hthis := List.all_eq_true.1 hall run hrun
  rw [Bool.and_eq_true, Bool.and_eq_true] at hthis
  exact ⟨hthis.1.1, hthis.1.2, List.all_eq_true.1 hthis.2⟩

theorem lowercaseSpecial_eq : lowercaseSpecial = [(304, [105, 775])] := by decide +kernel

/-! ## Characters -/

/-- What a character becomes is its own lower-case form. -/
theorem lowercase_of_mem_lowercase {c d : Char} (h : d ∈ lowercase c) : lowercase d = [d] := by
  have hspecial : ∀ n, n ≠ 304 → lowercaseSpecial.lookup n = none := by
    intro n hn
    rw [lowercaseSpecial_eq, List.lookup_cons, beq_eq_false_iff_ne.2 hn]
    rfl
  unfold lowercase mapCase at h
  split at h
  · next targets htargets =>
    have hc : c.toNat = 304 := Decidable.byContradiction fun hne => by
      rw [hspecial _ hne] at htargets
      cases htargets
    rw [hc, lowercaseSpecial_eq] at htargets
    cases htargets
    rcases List.mem_map.1 h with ⟨n, hn, rfl⟩
    rcases List.mem_cons.1 hn with rfl | hn
    · decide +kernel
    · obtain rfl := List.mem_singleton.1 hn
      decide +kernel
  · next hnone =>
    rw [List.mem_singleton] at h
    subst h
    cases hfound : findMapping? lowercaseRuns c.toNat with
    | none =>
      rw [Option.getD_none, Char.ofNat_toNat]
      unfold lowercase mapCase
      rw [hnone, hfound, Option.getD_none, Char.ofNat_toNat]
    | some image =>
      rw [Option.getD_some]
      obtain ⟨run, hrun, himage⟩ := List.exists_of_findSome?_eq_some hfound
      obtain ⟨hvalid, hapart, havoids⟩ := lowercaseRuns_avoid run hrun
      have hnat : (Char.ofNat image).toNat = image := toNat_ofNat (MappingRun.image_of_isValid hvalid himage)
      have hplain : image ≠ 304 := by
        rintro rfl
        have hmapped := MappingRun.image?_of_avoids hapart himage
        exact absurd hmapped (by decide)
      unfold lowercase mapCase
      rw [hnat, hspecial image hplain, findMapping?_of_avoids havoids himage]
      rfl

/-! ## Texts -/

/-- A capital sigma is not its own form. -/
theorem ne_sigma {c : Char} (h : lowercase c = [c]) : c ≠ 'Σ' := by
  rintro rfl
  exact absurd h (by decide +kernel)

theorem lowerBehind_eq_self {before chars : List Char} (h : ∀ c ∈ chars, lowercase c = [c]) :
    lowerBehind before chars = chars := by
  induction chars generalizing before with
  | nil => rfl
  | cons c chars ih =>
    obtain ⟨hc, hchars⟩ := List.forall_mem_cons.1 h
    unfold lowerBehind
    dsimp only
    rw [if_neg fun hsigma => ne_sigma hc hsigma.1, hc, ih hchars]
    rfl

theorem lowercase_of_mem_lowerBehind {before chars : List Char} {d : Char}
    (h : d ∈ lowerBehind before chars) : lowercase d = [d] := by
  induction chars generalizing before with
  | nil => cases h
  | cons c chars ih =>
    unfold lowerBehind at h
    dsimp only at h
    rcases List.mem_append.1 h with hform | hrest
    · split at hform
      · obtain rfl := List.mem_singleton.1 hform
        decide +kernel
      · exact lowercase_of_mem_lowercase hform
    · exact ih hrest

/-- A text stays what it is if every character does. -/
theorem lowerText_eq_self {text : String} (h : ∀ c ∈ text.toList, lowercase c = [c]) :
    lowerText text = text := by
  unfold lowerText
  rw [lowerBehind_eq_self h, String.ofList_toList]

/-- A lower-case form is its own lower-case form. -/
theorem lowerText_lowerText (text : String) : lowerText (lowerText text) = lowerText text := by
  apply lowerText_eq_self
  intro c hc
  unfold lowerText at hc
  rw [String.toList_ofList] at hc
  exact lowercase_of_mem_lowerBehind hc

end Schemata.Unicode
