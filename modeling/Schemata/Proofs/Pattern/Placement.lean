import Schemata.Pattern.Meaning
import Schemata.Proofs.Outcomes
import Schemata.Proofs.Pattern.Derivation

/-!
# Parts in place

What a part of a pattern means depends on the flags in front of it. A part in place is a part with
these flags. Flags go along a row from part to part, across the bars of a choice too; they come out
of a repetition, and not out of a group.

    the meaning of a pattern leaves the flags that are behind it        (flagsAfter_of_meaningUnder)
    what goes from a pattern to the parts right inside it
      goes to every part in place                                                 (PartAt.of_step)
    a pattern has a meaning → every part in place has one                     (PartAt.hasMeaning)
-/

namespace Schemata.Pattern

/-! ## Algorithm -/

def flagsAfter (flags : Flags) : Pattern → Flags
  | .flags change => flags.apply change
  | .repetition _ body => body.flagsAfter flags
  | .alternation branches => ofAll flags branches
  | .concat parts => ofAll flags parts
  | _ => flags
where
  /-- The flags behind parts one after the other. -/
  ofAll (flags : Flags) : List Pattern → Flags
    | [] => flags
    | part :: parts => ofAll (part.flagsAfter flags) parts

def GroupKind.flagsInside (flags : Flags) : GroupKind → Flags
  | capturing => flags
  | flagged change => flags.apply change

/-- Parts one after the other, each with the flags in front of it. -/
def inRow (flags : Flags) : List Pattern → List (Flags × Pattern)
  | [] => []
  | part :: parts => (flags, part) :: inRow (part.flagsAfter flags) parts

/-- The parts right inside a pattern, each with the flags in front of it. -/
def partsIn (flags : Flags) : Pattern → List (Flags × Pattern)
  | .repetition _ body => [(flags, body)]
  | .group kind body => [(kind.flagsInside flags, body)]
  | .alternation branches => inRow flags branches
  | .concat parts => inRow flags parts
  | _ => []

/-- The branches of a pattern that is a choice, perhaps in parentheses, each with the flags in front
of it. -/
def branchesIn (flags : Flags) : Pattern → List (Flags × Pattern)
  | .group kind body => body.branchesIn (kind.flagsInside flags)
  | .alternation branches => inRow flags branches
  | _ => []

/-- The parts of a pattern in place, at any depth. The pattern is one of them. -/
inductive PartAt (flags : Flags) (pattern : Pattern) : Flags → Pattern → Prop
  | here : PartAt flags pattern flags pattern
  | inside {front later : Flags} {outer part : Pattern} (houter : PartAt flags pattern front outer)
      (hpart : (later, part) ∈ outer.partsIn front) : PartAt flags pattern later part

/-- A pattern is not refused under flags. -/
def HasMeaning (flags : Flags) (pattern : Pattern) : Prop :=
  ∃ result, pattern.meaningUnder flags = .ok result

/-- A pattern matches a word under flags. Conditions on positions count as the empty word. -/
def MatchesUnder (flags : Flags) (pattern : Pattern) (word : List Char) : Prop :=
  ∃ node after, pattern.meaningUnder flags = .ok (node, after) ∧ Matches node word

/-- A pattern has a match under flags that starts with a character. -/
def BeginsUnder (flags : Flags) (pattern : Pattern) (c : Char) : Prop :=
  ∃ rest, MatchesUnder flags pattern (c :: rest)

/-! ## Flags behind a pattern -/

/-- What stands for one character leaves the flags as they are. -/
theorem flags_kept {found : Except Refusal Unicode.CodeRanges} {flags after : Flags} {node : Node}
    (h : (found >>= fun set => pure (Node.one set, flags)) = .ok (node, after)) : after = flags := by
  obtain ⟨_, -, h⟩ := bind_eq_ok_iff.1 h
  cases h
  rfl

mutual
/-- The meaning of a pattern leaves the flags that are behind it. -/
theorem flagsAfter_of_meaningUnder : ∀ (pattern : Pattern) {flags after : Flags} {node : Node},
    pattern.meaningUnder flags = .ok (node, after) → after = pattern.flagsAfter flags
  | .empty, _, _, _, h => by cases h; rfl
  | .flags _, _, _, _, h => by cases h; rfl
  | .assertion _, _, _, _, h => by cases h; rfl
  | .literal _, _, _, _, h => flags_kept h
  | .dot _, _, _, _, h => flags_kept h
  | .property _, _, _, _, h => flags_kept h
  | .perl _, _, _, _, h => flags_kept h
  | .bracketed _ _ _, _, _, _, h => by
    obtain ⟨_, -, h⟩ := bind_eq_ok_iff.1 h
    exact flags_kept h
  | .repetition _ body, _, _, _, h => by
    obtain ⟨_, hbody, h⟩ := bind_eq_ok_iff.1 h
    cases h
    exact flagsAfter_of_meaningUnder body hbody
  | .group .capturing _, _, _, _, h => by
    obtain ⟨_, -, h⟩ := bind_eq_ok_iff.1 h
    cases h
    rfl
  | .group (.flagged _) _, _, _, _, h => by
    obtain ⟨_, -, h⟩ := bind_eq_ok_iff.1 h
    cases h
    rfl
  | .alternation branches, _, _, _, h => by
    obtain ⟨_, hbranches, h⟩ := bind_eq_ok_iff.1 h
    cases h
    exact flagsAfter_of_meaningOfAll branches hbranches
  | .concat parts, _, _, _, h => by
    obtain ⟨_, hparts, h⟩ := bind_eq_ok_iff.1 h
    cases h
    exact flagsAfter_of_meaningOfAll parts hparts

theorem flagsAfter_of_meaningOfAll : ∀ (parts : List Pattern) {flags after : Flags}
    {nodes : List Node}, meaningUnder.meaningOfAll flags parts = .ok (nodes, after) →
      after = flagsAfter.ofAll flags parts
  | [], _, _, _, h => by cases h; rfl
  | part :: parts, _, _, _, h => by
    obtain ⟨⟨_, later⟩, hpart, h⟩ := bind_eq_ok_iff.1 h
    obtain ⟨_, hparts, h⟩ := bind_eq_ok_iff.1 h
    cases h
    obtain rfl := flagsAfter_of_meaningUnder part hpart
    exact flagsAfter_of_meaningOfAll parts hparts
end

/-! ## Parts in place -/

variable {flags front later : Flags} {pattern part : Pattern} {parts : List Pattern}
  {placed : Flags × Pattern}

theorem map_snd_inRow (flags : Flags) (parts : List Pattern) :
    (inRow flags parts).map (·.2) = parts := by
  induction parts generalizing flags with
  | nil => rfl
  | cons first parts ih => rw [inRow, List.map_cons, ih]

theorem mem_of_mem_inRow (h : placed ∈ inRow flags parts) : placed.2 ∈ parts := by
  rw [← map_snd_inRow flags parts]
  exact List.mem_map_of_mem h

/-- What goes from a pattern to the parts right inside it goes to every part in place. -/
theorem PartAt.of_step {motive : Flags → Pattern → Prop}
    (hstep : ∀ front outer, motive front outer →
      ∀ placed ∈ outer.partsIn front, motive placed.1 placed.2)
    (hpart : PartAt flags pattern later part) (h : motive flags pattern) : motive later part := by
  induction hpart with
  | here => exact h
  | @inside front later outer part _ hmem ih => exact hstep front outer ih (later, part) hmem

/-- The branches of a part in place are in place. -/
theorem PartAt.branch {body : Pattern} (hbody : PartAt flags pattern front body) :
    ∀ branch ∈ body.branchesIn front, PartAt flags pattern branch.1 branch.2 := by
  fun_induction branchesIn front body with
  | case1 front kind inner ih => exact ih (hbody.inside List.mem_cons_self)
  | case2 front branches => exact fun branch hmem => hbody.inside hmem
  | case3 => exact List.forall_mem_nil _

/-! ## Meanings -/

theorem hasMeaning_of_meaningOfAll {result : List Node × Flags}
    (h : meaningUnder.meaningOfAll flags parts = .ok result) :
    ∀ placed ∈ inRow flags parts, HasMeaning placed.1 placed.2 := by
  induction parts generalizing flags result with
  | nil => exact List.forall_mem_nil _
  | cons first parts ih =>
    obtain ⟨⟨node, after⟩, hfirst, h⟩ := bind_eq_ok_iff.1 h
    obtain ⟨rest, hrest, -⟩ := bind_eq_ok_iff.1 h
    obtain rfl := flagsAfter_of_meaningUnder first hfirst
    exact List.forall_mem_cons.2 ⟨⟨_, hfirst⟩, ih hrest⟩

theorem HasMeaning.partsIn (h : HasMeaning flags pattern) :
    ∀ placed ∈ pattern.partsIn flags, HasMeaning placed.1 placed.2 := by
  obtain ⟨result, h⟩ := h
  cases pattern with
  | repetition kind body =>
    obtain ⟨inner, hbody, -⟩ := bind_eq_ok_iff.1 h
    exact List.forall_mem_singleton.2 ⟨inner, hbody⟩
  | group kind body =>
    cases kind with
    | capturing =>
      obtain ⟨inner, hbody, -⟩ := bind_eq_ok_iff.1 h
      exact List.forall_mem_singleton.2 ⟨inner, hbody⟩
    | flagged change =>
      obtain ⟨inner, hbody, -⟩ := bind_eq_ok_iff.1 h
      exact List.forall_mem_singleton.2 ⟨inner, hbody⟩
  | alternation branches =>
    obtain ⟨inner, hbranches, -⟩ := bind_eq_ok_iff.1 h
    exact hasMeaning_of_meaningOfAll hbranches
  | concat parts =>
    obtain ⟨inner, hparts, -⟩ := bind_eq_ok_iff.1 h
    exact hasMeaning_of_meaningOfAll hparts
  | _ => exact List.forall_mem_nil _

/-- If a pattern has a meaning, so has every part in place. -/
theorem PartAt.hasMeaning (hpart : PartAt flags pattern later part)
    (h : HasMeaning flags pattern) : HasMeaning later part :=
  hpart.of_step (fun _ _ houter => houter.partsIn) h

end Schemata.Pattern
