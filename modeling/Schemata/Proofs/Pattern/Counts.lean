import Schemata.Pattern.Meaning
import Schemata.Pattern.Reader
import Schemata.Proofs.Outcomes
import Schemata.Proofs.Pattern.Spans

/-!
# Counts in order

Counts in braces are refused where the first is the greater one. So whatever is read as a pattern has
the counts of each repetition in order, and so has its meaning.

    counts that are read are in order                          (readCounts_ordered)
    a round of reading keeps what was read in order              (readFrom_ordered)
    the meaning of an ordered pattern is ordered             (ordered_of_meaningUnder)
-/

namespace Schemata.Pattern

/-! ## Algorithm -/

/-- The counts of a repetition are in order. -/
def RepetitionKind.Ordered (kind : RepetitionKind) : Prop := CountsOrdered kind.least kind.most?

/-- The counts of every repetition in a pattern are in order. -/
def Ordered : Pattern → Prop
  | .repetition kind body => kind.Ordered ∧ body.Ordered
  | .group _ body => body.Ordered
  | .alternation branches => allOrdered branches
  | .concat parts => allOrdered parts
  | _ => True
where
  /-- Those of a list of patterns are. -/
  allOrdered : List Pattern → Prop
    | [] => True
    | part :: parts => part.Ordered ∧ allOrdered parts

/-- The counts in everything that was read of a group are in order. -/
structure Level.Ordered (level : Level) : Prop where
  branches : ∀ branch ∈ level.branches, branch.Ordered
  parts : ∀ part ∈ level.parts, part.Ordered

variable {pattern operand part : Pattern} {parts others : List Pattern} {level : Level}
  {kind : RepetitionKind} {scan after : Scan}

/-! ## Levels -/

theorem allOrdered_iff : Ordered.allOrdered parts ↔ ∀ part ∈ parts, part.Ordered := by
  induction parts with
  | nil => simp [Ordered.allOrdered]
  | cons part parts ih => rw [Ordered.allOrdered, ih, List.forall_mem_cons]

theorem ordered_ofParts (h : ∀ part ∈ parts, part.Ordered) : (ofParts parts).Ordered := by
  match parts with
  | [] => trivial
  | [part] => exact h part List.mem_cons_self
  | _ :: _ :: _ => exact allOrdered_iff.2 h

theorem Level.ordered_start : Level.start.Ordered := ⟨List.forall_mem_nil _, List.forall_mem_nil _⟩

theorem Level.Ordered.push (h : level.Ordered) (hpart : part.Ordered) :
    (level.push part).Ordered :=
  ⟨h.branches, List.forall_mem_cons.2 ⟨hpart, h.parts⟩⟩

theorem Level.Ordered.branch (h : level.Ordered) : level.branch.Ordered := by
  refine ⟨List.forall_mem_cons.2 ⟨ordered_ofParts fun part hpart => ?_, h.branches⟩,
    List.forall_mem_nil _⟩
  exact h.parts part (List.mem_reverse.1 hpart)

theorem Level.Ordered.close (h : level.Ordered) : level.close.Ordered := by
  unfold Level.close
  split
  · exact ordered_ofParts fun part hpart => h.parts part (List.mem_reverse.1 hpart)
  · exact allOrdered_iff.2 fun branch hbranch =>
      h.branch.branches branch (List.mem_reverse.1 hbranch)

/-- The last part of a level, repeated with counts in order. -/
theorem Level.Ordered.repeat (h : level.Ordered)
    (hoperand : takeOperand level.parts = .ok (operand, others)) (hkind : kind.Ordered) :
    Level.Ordered { level with parts := .repetition kind operand :: others } := by
  have hparts : level.parts = operand :: others := by
    generalize level.parts = parts at hoperand
    unfold takeOperand at hoperand
    split at hoperand
    · cases hoperand
    · cases hoperand
    · cases hoperand
    · cases hoperand
      rfl
  have hall := h.parts
  rw [hparts] at hall
  obtain ⟨hfirst, hrest⟩ := List.forall_mem_cons.1 hall
  exact ⟨h.branches, List.forall_mem_cons.2 ⟨⟨hkind, hfirst⟩, hrest⟩⟩

/-! ## What is read -/

/-- Counts that are not between two bounds are in order. -/
theorem ordered_of_not_bounded (h : ∀ least most, kind ≠ .bounded least most) : kind.Ordered := by
  cases kind with
  | bounded least most => exact absurd rfl (h least most)
  | zeroOrOne =>
    rintro limit hlimit
    cases hlimit
    exact Nat.zero_le 1
  | exactly count =>
    rintro limit hlimit
    cases hlimit
    exact Nat.le_refl count
  | _ => exact fun limit hlimit => nomatch hlimit

theorem signRepetition_ordered {c : Char} (h : signRepetition? c = some kind) : kind.Ordered := by
  refine ordered_of_not_bounded ?_
  rintro least most rfl
  unfold signRepetition? at h
  split at h
  · cases h
  · cases h
  · cases h
  · cases h

/-- Counts that pass the check behind the closing brace are in order. -/
theorem ordered_of_checked {found : RepetitionKind}
    (h : (if ¬ scan.at? '}' then .error .unclosedCount
      else match found with
        | .bounded least most =>
          if most < least then .error .invertedCount else pure (found, behindLazy scan.next)
        | _ => pure (found, behindLazy scan.next) : Except Fault (RepetitionKind × Scan)) =
      .ok (kind, after)) : kind.Ordered := by
  split at h
  · cases h
  · split at h
    · next least most =>
      split at h
      · cases h
      · next hinverted =>
        cases h
        rintro limit hlimit
        cases hlimit
        exact Nat.not_lt.1 hinverted
    · next hbounded =>
      cases h
      exact ordered_of_not_bounded hbounded

theorem readCounts_ordered (h : readCounts scan = .ok (kind, after)) : kind.Ordered := by
  unfold readCounts at h
  dsimp only at h
  split at h
  · cases h
  · split at h
    · cases h
    · split at h
      · split at h
        · cases h
        · split at h
          · obtain ⟨least, -, h⟩ := bind_eq_ok_iff.1 h
            obtain ⟨⟨found, rest⟩, -, h⟩ := bind_eq_ok_iff.1 h
            exact ordered_of_checked h
          · obtain ⟨least, -, h⟩ := bind_eq_ok_iff.1 h
            obtain ⟨most, -, h⟩ := bind_eq_ok_iff.1 h
            obtain ⟨⟨found, rest⟩, -, h⟩ := bind_eq_ok_iff.1 h
            exact ordered_of_checked h
      · obtain ⟨count, -, h⟩ := bind_eq_ok_iff.1 h
        obtain ⟨⟨found, rest⟩, -, h⟩ := bind_eq_ok_iff.1 h
        exact ordered_of_checked h

theorem ordered_toPattern (primitive : Primitive) : primitive.toPattern.Ordered := by
  cases primitive with
  | _ => trivial

theorem readClassFrom_ordered {fuel : Nat} {frames : List ClassFrame} {items : List ClassSet}
    (h : readClassFrom fuel scan frames items = .ok (pattern, after)) : pattern.Ordered := by
  induction fuel generalizing scan frames items with
  | zero => cases h
  | succ fuel ih =>
    unfold readClassFrom at h
    dsimp only at h
    split at h
    · cases h
    · split at h
      · exact ih h
      · split at h
        · cases h
        · exact ih h
    · split at h
      · cases h
        trivial
      · exact ih h
      · cases h
    · split at h
      · exact ih h
      · split at h
        · cases h
        · exact ih h

/-- Every round of reading keeps the counts in order, in the group that is being read and in those
around it. -/
theorem readFrom_ordered {fuel : Nat} {groups : List OpenGroup} {names : List String}
    (hlevel : level.Ordered) (hgroups : ∀ opened ∈ groups, opened.outer.Ordered)
    (h : readFrom fuel scan groups names level = .ok pattern) : pattern.Ordered := by
  induction fuel generalizing scan groups names level with
  | zero => cases h
  | succ fuel ih =>
    unfold readFrom at h
    dsimp only at h
    split at h
    · split at h
      · cases h
        exact hlevel.close
      · cases h
    · split at h
      · cases h
      · next change scan _ =>
        have hflags : Ordered (.flags change) := trivial
        exact ih (hlevel.push hflags) hgroups h
      · split at h
        · cases h
        · exact ih Level.ordered_start (List.forall_mem_cons.2 ⟨hlevel, hgroups⟩) h
    · cases groups with
      | nil => cases h
      | cons opened groups =>
        obtain ⟨houter, hrest⟩ := List.forall_mem_cons.1 hgroups
        have hgroup : Ordered (.group opened.kind level.close) := hlevel.close
        exact ih (houter.push hgroup) hrest h
    · exact ih hlevel.branch hgroups h
    · split at h
      · cases h
      · next cls scan hclass =>
        exact ih (hlevel.push (readClassFrom_ordered hclass)) hgroups h
    · split at h
      · cases h
      · next operand parts hoperand =>
        split at h
        · cases h
        · next kind scan hcounts =>
          exact ih (hlevel.repeat hoperand (readCounts_ordered hcounts)) hgroups h
    · split at h
      · next kind hsign =>
        split at h
        · cases h
        · next operand parts hoperand =>
          exact ih (hlevel.repeat hoperand (signRepetition_ordered hsign)) hgroups h
      · split at h
        · cases h
        · exact ih (hlevel.push (ordered_toPattern _)) hgroups h

/-- Whatever is read as a pattern has its counts in order. -/
theorem read_ordered {text : String} (h : read text = .ok pattern) : pattern.Ordered := by
  unfold read at h
  split at h
  · cases h
  · next found hread =>
    split at h
    · cases h
    · cases h
      exact readFrom_ordered Level.ordered_start (List.forall_mem_nil _) hread

/-! ## Meanings -/

theorem ordered_one {found : Except Refusal Unicode.CodeRanges} {flags later : Flags} {node : Node}
    (h : (found >>= fun set => pure (Node.one set, flags)) = .ok (node, later)) : node.Ordered := by
  obtain ⟨set, -, h⟩ := bind_eq_ok_iff.1 h
  cases h
  trivial

mutual
/-- The meaning of an ordered pattern is ordered. -/
theorem ordered_of_meaningUnder : ∀ (pattern : Pattern) {flags later : Flags} {node : Node},
    pattern.Ordered → pattern.meaningUnder flags = .ok (node, later) → node.Ordered
  | .empty, _, _, _, _, h => by cases h; trivial
  | .flags _, _, _, _, _, h => by cases h; trivial
  | .assertion _, _, _, _, _, h => by cases h; trivial
  | .literal _, _, _, _, _, h => ordered_one h
  | .dot _, _, _, _, _, h => ordered_one h
  | .property _, _, _, _, _, h => ordered_one h
  | .perl _, _, _, _, _, h => ordered_one h
  | .bracketed _ _ _, _, _, _, _, h => by
    obtain ⟨_, -, h⟩ := bind_eq_ok_iff.1 h
    exact ordered_one h
  | .repetition _ body, _, _, _, ⟨hkind, hordered⟩, h => by
    obtain ⟨⟨inner, _⟩, hbody, h⟩ := bind_eq_ok_iff.1 h
    cases h
    exact ⟨hkind, ordered_of_meaningUnder body hordered hbody⟩
  | .group .capturing body, _, _, _, hordered, h => by
    obtain ⟨⟨inner, _⟩, hbody, h⟩ := bind_eq_ok_iff.1 h
    cases h
    have hinner := ordered_of_meaningUnder body hordered hbody
    exact hinner
  | .group (.flagged _) body, _, _, _, hordered, h => by
    obtain ⟨⟨inner, _⟩, hbody, h⟩ := bind_eq_ok_iff.1 h
    cases h
    exact ordered_of_meaningUnder body hordered hbody
  | .alternation branches, _, _, _, hordered, h => by
    obtain ⟨⟨nodes, _⟩, hbranches, h⟩ := bind_eq_ok_iff.1 h
    cases h
    exact ordered_of_meaningOfAll branches hordered hbranches
  | .concat parts, _, _, _, hordered, h => by
    obtain ⟨⟨nodes, _⟩, hparts, h⟩ := bind_eq_ok_iff.1 h
    cases h
    exact ordered_of_meaningOfAll parts hordered hparts

theorem ordered_of_meaningOfAll : ∀ (parts : List Pattern) {flags later : Flags} {nodes : List Node},
    Ordered.allOrdered parts → meaningUnder.meaningOfAll flags parts = .ok (nodes, later) →
      Node.Ordered.allOrdered nodes
  | [], _, _, _, _, h => by cases h; trivial
  | part :: parts, _, _, _, ⟨hfirst, hrest⟩, h => by
    obtain ⟨⟨node, _⟩, hpart, h⟩ := bind_eq_ok_iff.1 h
    obtain ⟨⟨nodes, _⟩, hparts, h⟩ := bind_eq_ok_iff.1 h
    cases h
    exact ⟨ordered_of_meaningUnder part hfirst hpart, ordered_of_meaningOfAll parts hrest hparts⟩
end

/-- The meaning of whatever was read is ordered. -/
theorem ordered_of_meaning {text : String} {node : Node} (hread : read text = .ok pattern)
    (h : pattern.meaning = .ok node) : node.Ordered := by
  obtain ⟨⟨inner, later⟩, hinner, rfl⟩ := map_eq_ok_iff.1 h
  exact ordered_of_meaningUnder pattern (read_ordered hread) hinner

end Schemata.Pattern
