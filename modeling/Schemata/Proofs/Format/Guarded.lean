import Mathlib.Data.Option.Basic
import Schemata.Proofs.Format.Outline
import Schemata.Proofs.Pattern.Unambiguous

/-!
# What the guard has looked at

The guard looks at first characters only, by two rules on what is repeated without a bound. Where a
pattern outlines a node and nothing is found in the pattern, both rules hold of every unbounded
repetition of the node.

    the guard finds nothing in a body → the two rules hold of its node       (rules_of_bodyHazard?)
    the guard finds nothing → every unbounded repetition keeps the rules         (rules_of_hazard?)
    a safe format is read, nothing is found in it, and it has a meaning    (guard_safe, compile_ok)
-/

namespace Schemata.Format

open Pattern (Node)

/-! ## Algorithm -/

/-- A greatest count that the guard takes for none. -/
def unbounded (most : Option Nat) : Bool := most.all fun count => boundLimit < count

variable {node : Node}

/-! ## Repetitions of outlines -/

theorem isVariable_iff {kind : Pattern.RepetitionKind} :
    kind.isVariable = true ↔ kind.most? ≠ some kind.least := by
  cases kind with
  | bounded least most =>
    simp only [Pattern.RepetitionKind.isVariable, Pattern.RepetitionKind.most?,
      Pattern.RepetitionKind.least, decide_eq_true_eq, ne_eq, Option.some.injEq]
    exact not_congr eq_comm
  | _ =>
    simp [Pattern.RepetitionKind.isVariable, Pattern.RepetitionKind.most?,
      Pattern.RepetitionKind.least]

mutual
/-- The guard sees a pattern of each body that may go round a varying number of times. -/
theorem outlines_varyingBodies : ∀ (pattern : Pattern) {node : Node}, Outlines id pattern node →
    ∀ inner ∈ node.varyingBodies, ∃ body ∈ variableBodies pattern, Outlines id body inner
  | _, _, .empty _, _, hmem => nomatch hmem
  | _, _, .look _ _, _, hmem => nomatch hmem
  | _, _, .one _, _, hmem => nomatch hmem
  | .repetition kind body, _, .repetition _ hbody, inner, hmem => by
    have hinside := outlines_varyingBodies body hbody inner
    unfold Node.varyingBodies at hmem
    unfold variableBodies
    split at hmem
    · next hfixed =>
      rw [if_neg fun hvariable => isVariable_iff.1 hvariable hfixed]
      exact hinside hmem
    · next hvaries =>
      rw [if_pos (isVariable_iff.2 hvaries)]
      rcases List.mem_cons.1 hmem with rfl | hmem
      · exact ⟨body, List.mem_cons_self, hbody⟩
      · obtain ⟨found, hfound, houtlines⟩ := hinside hmem
        exact ⟨found, List.mem_cons_of_mem body hfound, houtlines⟩
  | .group _ body, _, .capture hbody, inner, hmem => outlines_varyingBodies body hbody inner hmem
  | .group _ body, _, .flagged _ hbody, inner, hmem => outlines_varyingBodies body hbody inner hmem
  | .alternation branches, _, .alternation hbranches, inner, hmem =>
    outlines_varyingOfAll branches hbranches inner hmem
  | .concat parts, _, .concat hparts, inner, hmem => outlines_varyingOfAll parts hparts inner hmem

theorem outlines_varyingOfAll : ∀ (parts : List Pattern) {nodes : List Node},
    List.Forall₂ (Outlines id) parts nodes → ∀ inner ∈ Node.varyingBodies.ofAll nodes,
      ∃ body ∈ variableBodies.ofAll parts, Outlines id body inner
  | [], _, .nil, _, hmem => nomatch hmem
  | part :: parts, _, .cons hpart hparts, inner, hmem => by
    rcases List.mem_append.1 hmem with hmem | hmem
    · obtain ⟨body, hbody, houtlines⟩ := outlines_varyingBodies part hpart inner hmem
      exact ⟨body, List.mem_append_left _ hbody, houtlines⟩
    · obtain ⟨body, hbody, houtlines⟩ := outlines_varyingOfAll parts hparts inner hmem
      exact ⟨body, List.mem_append_right _ hbody, houtlines⟩
end

/-! ## The two rules -/

/-- Nothing is found where nothing is wrong, and nothing in the rest. -/
theorem found_eq_none {wrong : Bool} {hazard : Hazard} {rest : Option Hazard} :
    (if wrong then some hazard else rest) = none ↔ wrong = false ∧ rest = none := by
  cases wrong with
  | true => simp
  | false => simp

theorem branchHazard?_cons {set : Onset} {nullable : Bool} {rest : List (Onset × Bool)} :
    branchHazard? ((set, nullable) :: rest) = none ↔
      nullable = false ∧ (∀ other ∈ rest, ¬ set.overlaps other.1 = true) ∧
        branchHazard? rest = none := by
  rw [branchHazard?, found_eq_none, found_eq_none, List.any_eq_false]

theorem bodyHazard?_eq_none {body : Pattern} :
    bodyHazard? body = none ↔
      (∀ inner ∈ variableBodies body,
        ¬ (Onset.ofPattern inner).1.overlaps (Onset.ofPattern body).1 = true) ∧
        branchHazard? ((branchesOf body).map Onset.ofPattern) = none := by
  rw [bodyHazard?, found_eq_none, List.any_eq_false]

/-- Branches in which the guard finds nothing are apart. -/
theorem apart_of_branches {branches : List Pattern} {nodes : List Node}
    (h : List.Forall₂ (Outlines id) branches nodes)
    (hnone : branchHazard? (branches.map Onset.ofPattern) = none) : Pattern.Apart nodes := by
  induction h with
  | nil => exact Pattern.apart_nil
  | @cons branch node branches nodes hbranch hbranches ih =>
    obtain ⟨hnullable, hoverlaps, hrest⟩ := branchHazard?_cons.1 hnone
    have hcovers := covers_of_outlines branch hbranch
    obtain ⟨hempty, hpairwise⟩ := ih hrest
    refine ⟨List.forall_mem_cons.2 ⟨mt hcovers.empty (by simp [hnullable]), hempty⟩,
      List.pairwise_cons.2 ⟨fun second hsecond c hfirst hbegins => ?_, hpairwise⟩⟩
    obtain ⟨other, hother, houtlines⟩ := exists_of_mem_outlined hbranches hsecond
    exact hoverlaps _ (List.mem_map_of_mem hother) (Onset.overlaps_of_holds
      (hcovers.holds hfirst) ((covers_of_outlines other houtlines).holds hbegins))

/-- The choice that a pattern is has its branches apart, if the guard finds nothing in them. -/
theorem apart_of_outlines : ∀ (pattern : Pattern) {node : Node}, Outlines id pattern node →
    branchHazard? ((branchesOf pattern).map Onset.ofPattern) = none → Pattern.Apart node.branches
  | _, _, .empty _, _ => Pattern.apart_nil
  | _, _, .look _ _, _ => Pattern.apart_nil
  | _, _, .one _, _ => Pattern.apart_nil
  | _, _, .repetition _ _, _ => Pattern.apart_nil
  | .group _ body, _, .capture hbody, hnone => by
    -- The branches of the capture are those of its body.
    have hinside := apart_of_outlines body hbody hnone
    exact hinside
  | .group _ body, _, .flagged _ hbody, hnone => apart_of_outlines body hbody hnone
  | .alternation _, _, .alternation hbranches, hnone => apart_of_branches hbranches hnone
  | _, _, .concat _, _ => Pattern.apart_nil

/-- A body in which the guard finds nothing keeps the two rules. -/
theorem rules_of_bodyHazard? {body : Pattern} (houtlines : Outlines id body node)
    (hnone : bodyHazard? body = none) : Pattern.Rules node := by
  obtain ⟨hnested, hbranches⟩ := bodyHazard?_eq_none.1 hnone
  refine ⟨fun inner hinner c hbegins hbody => ?_, apart_of_outlines body houtlines hbranches⟩
  obtain ⟨found, hfound, hfoundOutlines⟩ := outlines_varyingBodies body houtlines inner hinner
  exact hnested found hfound (Onset.overlaps_of_holds
    ((covers_of_outlines found hfoundOutlines).holds hbegins)
    ((covers_of_outlines body houtlines).holds hbody))

theorem isUnbounded_eq (kind : Pattern.RepetitionKind) :
    kind.isUnbounded = unbounded kind.most? := by
  cases kind with
  | zeroOrOne => rfl
  | zeroOrMore => rfl
  | oneOrMore => rfl
  | exactly count => rfl
  | atLeast least => rfl
  | bounded least most => rfl

mutual
/-- Where the guard finds nothing, the two rules hold of every unbounded repetition. -/
theorem rules_of_hazard? : ∀ (pattern : Pattern) {node : Node}, Outlines id pattern node →
    hazard? pattern = none → ∀ least most body,
      Node.repetition least most body ∈ node.repetitions → unbounded most = true →
        Pattern.Rules body
  | _, _, .empty _, _, _, _, _, hmem, _ => nomatch hmem
  | _, _, .look _ _, _, _, _, _, hmem, _ => nomatch hmem
  | _, _, .one _, _, _, _, _, hmem, _ => nomatch hmem
  | .repetition kind body, _, .repetition _ hbody, hnone, least, most, inner, hmem, hunbounded => by
    obtain ⟨hself, hinside⟩ := (Option.orElse_eq_none _ _).1 hnone
    rcases List.mem_cons.1 hmem with heq | hmem
    · cases heq
      rw [isUnbounded_eq, hunbounded] at hself
      exact rules_of_bodyHazard? hbody hself
    · exact rules_of_hazard? body hbody hinside least most inner hmem hunbounded
  | .group _ body, _, .capture hbody, hnone, least, most, inner, hmem, hunbounded =>
    rules_of_hazard? body hbody hnone least most inner hmem hunbounded
  | .group _ body, _, .flagged _ hbody, hnone, least, most, inner, hmem, hunbounded =>
    rules_of_hazard? body hbody hnone least most inner hmem hunbounded
  | .alternation branches, _, .alternation hbranches, hnone, least, most, inner, hmem, hunbounded =>
    rules_of_hazardOfAll? branches hbranches hnone least most inner hmem hunbounded
  | .concat parts, _, .concat hparts, hnone, least, most, inner, hmem, hunbounded =>
    rules_of_hazardOfAll? parts hparts hnone least most inner hmem hunbounded

theorem rules_of_hazardOfAll? : ∀ (parts : List Pattern) {nodes : List Node},
    List.Forall₂ (Outlines id) parts nodes → hazard?.hazardOfAll? parts = none → ∀ least most body,
      Node.repetition least most body ∈ Node.repetitions.ofAll nodes → unbounded most = true →
        Pattern.Rules body
  | [], _, .nil, _, _, _, _, hmem, _ => nomatch hmem
  | part :: parts, _, .cons hpart hparts, hnone, least, most, inner, hmem, hunbounded => by
    obtain ⟨hfirst, hrest⟩ := (Option.orElse_eq_none _ _).1 hnone
    rcases List.mem_append.1 hmem with hmem | hmem
    · exact rules_of_hazard? part hpart hfirst least most inner hmem hunbounded
    · exact rules_of_hazardOfAll? parts hparts hrest least most inner hmem hunbounded
end

/-! ## Safe formats -/

/-- What is read is analyzed as safe exactly if no hazard is found in it. -/
theorem analyze_eq_safe_iff {text : String} {pattern : Pattern}
    (hread : Pattern.read text = .ok pattern) : analyze text = .safe ↔ hazard? pattern = none := by
  simp only [analyze, hread]
  split
  · next hazard hfound => simp [hfound]
  · next hnone => simp [hnone]

theorem compile_ok {text : String} (h : compile text = .ok node) :
    ∃ pattern, Pattern.read text = .ok pattern ∧ hazard? pattern = none ∧
      pattern.meaning = .ok node := by
  unfold compile at h
  split at h
  · cases h
  · next pattern hread =>
    split at h
    · cases h
    · next hnone =>
      split at h
      · cases h
      · next inner hmeaning =>
        split at h
        · cases h
          exact ⟨pattern, hread, hnone, hmeaning⟩
        · cases h

theorem guard_safe {name text : String} (h : (guard name text).verdict = .safe) :
    ∃ node, compile text = .ok node ∧ guard name text = ⟨name, text, text, .safe, some node⟩ := by
  unfold guard at h ⊢
  split at h
  · next node hcompile => exact ⟨node, hcompile, rfl⟩
  · cases h

end Schemata.Format
