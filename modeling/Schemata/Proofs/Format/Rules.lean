import Schemata.Proofs.Format.Guarded
import Schemata.Proofs.Pattern.Placement

/-!
# What a safe verdict means

The guard compares onsets, without regard to flags. Of a pattern in which letter case always counts
its two rules hold in earnest, of the words that the parts of the pattern match where they stand:

* what goes round without a bound begins with no character that a repetition in it, of a varying
  number of rounds, begins with in a round;
* if it is a choice, no branch of it matches the empty word, and no two branches begin with the same
  character.

The guard reaches every part of a pattern, whatever groups, rows, choices and repetitions it is in.

    nothing wrong with a body → the body keeps the rules                (keepsRules_of_bodyHazard?)
    nothing wrong with a pattern → nothing with the parts right inside it         (hazard?_partsIn)
    a safe format → every unbounded repetition in it keeps the rules             (guard_keepsRules)
-/

namespace Schemata

/-! ## Algorithm -/

namespace Pattern

/-- Letter case counts in front of a pattern and throughout it. -/
structure CaseCountsUnder (flags : Flags) (pattern : Pattern) : Prop where
  front : flags.caseInsensitive = false
  changes : CaseCounts pattern.flagChanges

end Pattern

namespace Format

open Pattern (Flags PartAt MatchesUnder BeginsUnder CaseCountsUnder)

/-- The two rules on the body of a repetition, where it stands. -/
structure KeepsRules (flags : Flags) (body : Pattern) : Prop where
  nested : ∀ front kind inner, PartAt flags body front (.repetition kind inner) →
    kind.isVariable = true → ∀ c, BeginsUnder front inner c → ¬ BeginsUnder flags body c
  nonempty : ∀ branch ∈ body.branchesIn flags, ¬ MatchesUnder branch.1 branch.2 []
  apart : (body.branchesIn flags).Pairwise fun first second =>
    ∀ c, BeginsUnder first.1 first.2 c → ¬ BeginsUnder second.1 second.2 c

end Format

/-! ## Letter case -/

namespace Pattern

variable {flags later : Flags} {pattern part : Pattern} {parts : List Pattern}

theorem caseCounts_ofAll :
    CaseCounts (flagChanges.ofAll parts) ↔ ∀ part ∈ parts, CaseCounts part.flagChanges := by
  induction parts with
  | nil => simp [flagChanges.ofAll, CaseCounts]
  | cons first parts ih =>
    rw [flagChanges.ofAll, List.forall_mem_cons, ← ih]
    exact List.forall_mem_append

mutual
/-- Letter case counts behind a pattern by which it always counts. -/
theorem caseInsensitive_flagsAfter : ∀ (pattern : Pattern) {flags : Flags},
    flags.caseInsensitive = false → CaseCounts pattern.flagChanges →
      (pattern.flagsAfter flags).caseInsensitive = false
  | .flags change, _, hcase, hchanges =>
    Flags.apply_caseInsensitive (hchanges change List.mem_cons_self) hcase
  | .repetition _ body, _, hcase, hchanges => caseInsensitive_flagsAfter body hcase hchanges
  | .alternation branches, _, hcase, hchanges =>
    caseInsensitive_flagsAfterAll branches hcase (caseCounts_ofAll.1 hchanges)
  | .concat parts, _, hcase, hchanges =>
    caseInsensitive_flagsAfterAll parts hcase (caseCounts_ofAll.1 hchanges)
  | .empty, _, hcase, _ => hcase
  | .literal _, _, hcase, _ => hcase
  | .dot _, _, hcase, _ => hcase
  | .assertion _, _, hcase, _ => hcase
  | .property _, _, hcase, _ => hcase
  | .perl _, _, hcase, _ => hcase
  | .bracketed _ _ _, _, hcase, _ => hcase
  -- what a group changes inside ends with it
  | .group _ _, _, hcase, _ => hcase

theorem caseInsensitive_flagsAfterAll : ∀ (parts : List Pattern) {flags : Flags},
    flags.caseInsensitive = false → (∀ part ∈ parts, CaseCounts part.flagChanges) →
      (flagsAfter.ofAll flags parts).caseInsensitive = false
  | [], _, hcase, _ => hcase
  | part :: parts, _, hcase, hchanges => by
    obtain ⟨hfirst, hrest⟩ := List.forall_mem_cons.1 hchanges
    exact caseInsensitive_flagsAfterAll parts (caseInsensitive_flagsAfter part hcase hfirst) hrest
end

theorem caseCountsUnder_inRow (hcase : flags.caseInsensitive = false)
    (hchanges : ∀ part ∈ parts, CaseCounts part.flagChanges) :
    ∀ placed ∈ inRow flags parts, CaseCountsUnder placed.1 placed.2 := by
  induction parts generalizing flags with
  | nil => exact List.forall_mem_nil _
  | cons first parts ih =>
    obtain ⟨hfirst, hrest⟩ := List.forall_mem_cons.1 hchanges
    exact List.forall_mem_cons.2
      ⟨⟨hcase, hfirst⟩, ih (caseInsensitive_flagsAfter first hcase hfirst) hrest⟩

theorem CaseCountsUnder.partsIn (h : CaseCountsUnder flags pattern) :
    ∀ placed ∈ pattern.partsIn flags, CaseCountsUnder placed.1 placed.2 := by
  obtain ⟨hcase, hchanges⟩ := h
  cases pattern with
  | repetition kind body => exact List.forall_mem_singleton.2 ⟨hcase, hchanges⟩
  | group kind body =>
    cases kind with
    | capturing => exact List.forall_mem_singleton.2 ⟨hcase, hchanges⟩
    | flagged change =>
      obtain ⟨hchange, hchanges⟩ := List.forall_mem_cons.1 hchanges
      exact List.forall_mem_singleton.2 ⟨Flags.apply_caseInsensitive hchange hcase, hchanges⟩
  | alternation branches => exact caseCountsUnder_inRow hcase (caseCounts_ofAll.1 hchanges)
  | concat parts => exact caseCountsUnder_inRow hcase (caseCounts_ofAll.1 hchanges)
  | _ => exact List.forall_mem_nil _

/-- Where letter case always counts, it counts in every part in place. -/
theorem PartAt.caseCountsUnder (hpart : PartAt flags pattern later part)
    (h : CaseCountsUnder flags pattern) : CaseCountsUnder later part :=
  hpart.of_step (fun _ _ houter => houter.partsIn) h

end Pattern

namespace Format

open Pattern (Flags PartAt MatchesUnder BeginsUnder CaseCountsUnder)

variable {flags later : Flags} {pattern part body : Pattern} {parts : List Pattern}

/-! ## Onsets where letter case counts -/

/-- The onset of a pattern holds what the pattern begins with where it stands. -/
theorem holds_of_beginsUnder {c : Char} (hcase : CaseCountsUnder flags pattern)
    (h : BeginsUnder flags pattern c) : (Onset.ofPattern pattern).1.Holds c := by
  obtain ⟨rest, node, after, hmeaning, hword⟩ := h
  have houtlines := (outlines_of_meaningUnder hcase.changes hcase.front hmeaning).1
  exact (covers_of_outlines pattern houtlines).holds ⟨rest, hword⟩

theorem nullable_of_matchesUnder (hcase : CaseCountsUnder flags pattern)
    (h : MatchesUnder flags pattern []) : (Onset.ofPattern pattern).2 = true := by
  obtain ⟨node, after, hmeaning, hword⟩ := h
  have houtlines := (outlines_of_meaningUnder hcase.changes hcase.front hmeaning).1
  exact (covers_of_outlines pattern houtlines).empty hword

/-! ## Bodies seen by the guard -/

theorem mem_variableBodies_ofAll :
    body ∈ variableBodies.ofAll parts ↔ ∃ part ∈ parts, body ∈ variableBodies part := by
  induction parts with
  | nil => simp [variableBodies.ofAll]
  | cons first parts ih => simp [variableBodies.ofAll, ih]

theorem variableBodies_partsIn :
    ∀ placed ∈ pattern.partsIn flags, variableBodies placed.2 ⊆ variableBodies pattern := by
  have hrow : ∀ {parts : List Pattern}, ∀ placed ∈ Pattern.inRow flags parts,
      variableBodies placed.2 ⊆ variableBodies.ofAll parts :=
    fun placed hmem body hbody =>
      mem_variableBodies_ofAll.2 ⟨placed.2, Pattern.mem_of_mem_inRow hmem, hbody⟩
  cases pattern with
  | repetition kind body =>
    refine List.forall_mem_singleton.2 fun inner hinner => ?_
    unfold variableBodies
    split
    · exact List.mem_cons_of_mem body hinner
    · exact hinner
  | group kind body => exact List.forall_mem_singleton.2 fun _ hinner => hinner
  | alternation branches => exact hrow
  | concat parts => exact hrow
  | _ => exact List.forall_mem_nil _

/-- The guard sees the body of every varying repetition in a pattern. -/
theorem mem_variableBodies {kind : Pattern.RepetitionKind} {inner : Pattern}
    (hpart : PartAt flags pattern later (.repetition kind inner))
    (hvariable : kind.isVariable = true) : inner ∈ variableBodies pattern := by
  have hsubset : variableBodies (.repetition kind inner) ⊆ variableBodies pattern :=
    hpart.of_step (motive := fun _ part => variableBodies part ⊆ variableBodies pattern)
      (fun _ _ houter placed hmem =>
        List.Subset.trans (variableBodies_partsIn placed hmem) houter)
      (List.Subset.refl _)
  refine hsubset ?_
  unfold variableBodies
  rw [if_pos hvariable]
  exact List.mem_cons_self

/-! ## The two rules -/

theorem branchesOf_eq (flags : Flags) (body : Pattern) :
    branchesOf body = (body.branchesIn flags).map (·.2) := by
  fun_induction Pattern.branchesIn flags body with
  | case1 flags kind inner ih => exact ih
  | case2 flags branches => exact (Pattern.map_snd_inRow flags branches).symm
  | case3 body flags hgroup halternation =>
    cases body with
    | group kind inner => exact absurd rfl (hgroup kind inner)
    | alternation branches => exact absurd rfl (halternation branches)
    | _ => rfl

/-- Branches in which the guard finds nothing are not empty, and no two begin alike. -/
theorem apart_of_branchHazard? {branches : List (Flags × Pattern)}
    (hcase : ∀ branch ∈ branches, CaseCountsUnder branch.1 branch.2)
    (hnone : branchHazard? (branches.map fun branch => Onset.ofPattern branch.2) = none) :
    (∀ branch ∈ branches, ¬ MatchesUnder branch.1 branch.2 []) ∧
      branches.Pairwise fun first second =>
        ∀ c, BeginsUnder first.1 first.2 c → ¬ BeginsUnder second.1 second.2 c := by
  induction branches with
  | nil => exact ⟨List.forall_mem_nil _, .nil⟩
  | cons first branches ih =>
    obtain ⟨hfirst, hcase⟩ := List.forall_mem_cons.1 hcase
    obtain ⟨hnullable, hoverlaps, hrest⟩ := branchHazard?_cons.1 hnone
    obtain ⟨hnonempty, hpairwise⟩ := ih hcase hrest
    refine ⟨List.forall_mem_cons.2 ⟨fun hempty => ?_, hnonempty⟩,
      List.pairwise_cons.2 ⟨fun second hsecond c hbegins hbegins' => ?_, hpairwise⟩⟩
    · rw [nullable_of_matchesUnder hfirst hempty] at hnullable
      cases hnullable
    · exact hoverlaps _ (List.mem_map_of_mem hsecond) (Onset.overlaps_of_holds
        (holds_of_beginsUnder hfirst hbegins)
        (holds_of_beginsUnder (hcase second hsecond) hbegins'))

/-- A body with which nothing is wrong keeps the rules. -/
theorem keepsRules_of_bodyHazard? (hcase : CaseCountsUnder flags body)
    (hnone : bodyHazard? body = none) : KeepsRules flags body := by
  obtain ⟨hnested, hbranches⟩ := bodyHazard?_eq_none.1 hnone
  rw [branchesOf_eq flags body, List.map_map] at hbranches
  have hbranchCase : ∀ branch ∈ body.branchesIn flags, CaseCountsUnder branch.1 branch.2 :=
    fun branch hmem => (PartAt.here.branch branch hmem).caseCountsUnder hcase
  obtain ⟨hnonempty, hapart⟩ := apart_of_branchHazard? hbranchCase hbranches
  refine ⟨fun front kind inner hpart hvariable c hinner hbody => ?_, hnonempty, hapart⟩
  -- a repetition hands its flags on to its body as they are
  have hrepetition := hpart.caseCountsUnder hcase
  have hinnerCase : CaseCountsUnder front inner := ⟨hrepetition.front, hrepetition.changes⟩
  exact hnested inner (mem_variableBodies hpart hvariable) (Onset.overlaps_of_holds
    (holds_of_beginsUnder hinnerCase hinner) (holds_of_beginsUnder hcase hbody))

/-! ## Hazards at any depth -/

theorem hazardOfAll?_eq_none :
    hazard?.hazardOfAll? parts = none ↔ ∀ part ∈ parts, hazard? part = none := by
  induction parts with
  | nil => simp [hazard?.hazardOfAll?]
  | cons first parts ih =>
    rw [List.forall_mem_cons, ← ih]
    exact Option.orElse_eq_none _ _

/-- Where the guard finds nothing, it finds nothing in the parts right inside. -/
theorem hazard?_partsIn (h : hazard? pattern = none) :
    ∀ placed ∈ pattern.partsIn flags, hazard? placed.2 = none := by
  have hrow : ∀ {parts : List Pattern}, hazard?.hazardOfAll? parts = none →
      ∀ placed ∈ Pattern.inRow flags parts, hazard? placed.2 = none :=
    fun hnone placed hmem => hazardOfAll?_eq_none.1 hnone _ (Pattern.mem_of_mem_inRow hmem)
  cases pattern with
  | repetition kind body =>
    exact List.forall_mem_singleton.2 ((Option.orElse_eq_none _ _).1 h).2
  | group kind body => exact List.forall_mem_singleton.2 h
  | alternation branches => exact hrow h
  | concat parts => exact hrow h
  | _ => exact List.forall_mem_nil _

/-- Where the guard finds nothing, nothing is wrong with the body of any unbounded repetition. -/
theorem bodyHazard?_of_part {kind : Pattern.RepetitionKind} (hnone : hazard? pattern = none)
    (hpart : PartAt flags pattern later (.repetition kind body))
    (hunbounded : kind.isUnbounded = true) : bodyHazard? body = none := by
  have hfound : hazard? (.repetition kind body) = none :=
    hpart.of_step (motive := fun _ part => hazard? part = none)
      (fun _ _ houter => hazard?_partsIn houter) hnone
  have hbody := ((Option.orElse_eq_none _ _).1 hfound).1
  rwa [if_pos hunbounded] at hbody

/-- Where the guard finds nothing, every unbounded repetition keeps the rules. -/
theorem keepsRules_of_hazard? {kind : Pattern.RepetitionKind}
    (hcase : CaseCountsUnder flags pattern) (hnone : hazard? pattern = none)
    (hpart : PartAt flags pattern later (.repetition kind body))
    (hunbounded : kind.isUnbounded = true) : KeepsRules later body := by
  have hrepetition := hpart.caseCountsUnder hcase
  exact keepsRules_of_bodyHazard? ⟨hrepetition.front, hrepetition.changes⟩
    (bodyHazard?_of_part hnone hpart hunbounded)

/-! ## Top theorem -/

/-- Every part of a safe format has a meaning where it stands, and if letter case always counts,
every unbounded repetition in the format keeps the two rules. -/
theorem guard_keepsRules {name text : String} (hsafe : (guard name text).verdict = .safe) :
    ∃ pattern, Pattern.read text = .ok pattern ∧
      (∀ flags part, PartAt Flags.initial pattern flags part → Pattern.HasMeaning flags part) ∧
        (Pattern.CaseCounts pattern.flagChanges → ∀ flags kind body,
          PartAt Flags.initial pattern flags (.repetition kind body) → kind.isUnbounded = true →
            KeepsRules flags body) := by
  obtain ⟨node, hcompile, -⟩ := guard_safe hsafe
  obtain ⟨pattern, hread, hnone, hmeaning⟩ := compile_ok hcompile
  obtain ⟨result, hresult, -⟩ := map_eq_ok_iff.1 hmeaning
  refine ⟨pattern, hread, fun flags part hpart => hpart.hasMeaning ⟨result, hresult⟩, ?_⟩
  intro hcounts flags kind body hpart hunbounded
  exact keepsRules_of_hazard? ⟨rfl, hcounts⟩ hnone hpart hunbounded

/-- Small letters with digits behind them, and capital letters, keep the rules in any order. -/
theorem guard_keepsRules_of_codes :
    (guard "codes" "([a-z][0-9]*|[A-Z])*").verdict = .safe ∧
      ∃ body, Pattern.read "([a-z][0-9]*|[A-Z])*" = .ok (.repetition .zeroOrMore body) ∧
        (body.branchesIn Flags.initial).length = 2 ∧ KeepsRules Flags.initial body := by
  have hsafe : (guard "codes" "([a-z][0-9]*|[A-Z])*").verdict = .safe := by decide +kernel
  have hshape : ∃ body, Pattern.read "([a-z][0-9]*|[A-Z])*" = .ok (.repetition .zeroOrMore body) ∧
      (body.branchesIn Flags.initial).length = 2 ∧ body.flagChanges = [] := ⟨_, rfl, rfl, rfl⟩
  obtain ⟨body, hbody, hlength, hchanges⟩ := hshape
  obtain ⟨pattern, hread, -, hrules⟩ := guard_keepsRules hsafe
  rw [hread] at hbody
  obtain rfl := Except.ok.inj hbody
  have hcounts : Pattern.CaseCounts body.flagChanges := by
    rw [hchanges]
    exact List.forall_mem_nil _
  exact ⟨hsafe, body, hread, hlength, hrules hcounts Flags.initial .zeroOrMore body .here rfl⟩

end Format

end Schemata
