import Schemata.Proofs.Format.Onset
import Schemata.Proofs.Pattern.Derivation

/-!
# Outlines

A pattern outlines a node of the same shape whose sets of characters have their like in its onsets.
A pattern outlines its meaning, if folding under all flags that come up in it adds no other
characters; from there on no flag need be followed.

    letter case always counts → a pattern outlines its meaning        (outlines_of_meaningUnder)
    a pattern outlines a node → its onset misses no beginning of it        (covers_of_outlines)
-/

namespace Schemata

open Unicode (CodeRanges)

/-! ## Algorithm -/

namespace Pattern

def flagChanges : Pattern → List FlagChange
  | .flags change => [change]
  | .group (.flagged change) body => change :: body.flagChanges
  | .group .capturing body => body.flagChanges
  | .repetition _ body => body.flagChanges
  | .alternation branches => ofAll branches
  | .concat parts => ofAll parts
  | _ => []
where
  /-- The changes of flags in a list of patterns. -/
  ofAll : List Pattern → List FlagChange
    | [] => []
    | part :: parts => part.flagChanges ++ ofAll parts

/-- No change of flags makes letter case not count. -/
def CaseCounts (changes : List FlagChange) : Prop := ∀ change ∈ changes, .caseInsensitive ∉ change.on

end Pattern

namespace Format

open Pattern (Node Flags Begins Matches)

variable {α : Type} {key : Char → α}

/-- What a pattern can begin with, and whether it can be empty, is no less than what a node can, but
for characters with one key. -/
structure Covers (key : Char → α) (onset : Onset × Bool) (node : Node) : Prop where
  begins : ∀ c, Begins node c → onset.1.HoldsLike key c
  empty : Matches node [] → onset.2 = true

/-- A pattern outlines a node: the node has the shape of the pattern, and the onsets of the pattern
hold the like of its sets of characters. -/
inductive Outlines (key : Char → α) : Pattern → Node → Prop
  | empty {pattern : Pattern} (hempty : Onset.ofPattern pattern = (Onset.none, true)) :
      Outlines key pattern .empty
  | look (kind : Pattern.Assertion) (look : Pattern.Look) :
      Outlines key (.assertion kind) (.look look)
  | one {pattern : Pattern} {set : CodeRanges}
      (hset : ∀ c : Char, CodeRanges.contains set c.toNat = true →
        (Onset.ofPattern pattern).1.HoldsLike key c) : Outlines key pattern (.one set)
  | repetition {body : Pattern} {node : Node} (kind : Pattern.RepetitionKind)
      (hbody : Outlines key body node) :
      Outlines key (.repetition kind body) (.repetition kind.least kind.most? node)
  | capture {body : Pattern} {node : Node} (hbody : Outlines key body node) :
      Outlines key (.group .capturing body) (.capture node)
  | flagged {body : Pattern} {node : Node} (change : Pattern.FlagChange)
      (hbody : Outlines key body node) : Outlines key (.group (.flagged change) body) node
  | alternation {branches : List Pattern} {nodes : List Node}
      (hbranches : List.Forall₂ (Outlines key) branches nodes) :
      Outlines key (.alternation branches) (.alternation nodes)
  | concat {parts : List Pattern} {nodes : List Node}
      (hparts : List.Forall₂ (Outlines key) parts nodes) :
      Outlines key (.concat parts) (.concat nodes)

/-- What holds of some flags holds of them still after each of some changes. -/
def KeptBy (admits : Flags → Prop) (changes : List Pattern.FlagChange) : Prop :=
  ∀ change ∈ changes, ∀ flags, admits flags → admits (flags.apply change)

variable {node : Node}

/-! ## Outlines of meanings -/

/-- A pattern for one character outlines a set whose like its onset holds. -/
theorem outlines_one {admits : Flags → Prop} {pattern : Pattern} {flags after : Flags}
    {found : Except Pattern.Refusal CodeRanges} (hflags : admits flags)
    (h : (found >>= fun set => pure (Node.one set, flags)) = .ok (node, after))
    (hholds : ∀ {set}, found = .ok set → ∀ c : Char, CodeRanges.contains set c.toNat = true →
      (Onset.ofPattern pattern).1.HoldsLike key c) :
    Outlines key pattern node ∧ admits after := by
  obtain ⟨set, hset, h⟩ := bind_eq_ok_iff.1 h
  cases h
  exact ⟨.one (hholds hset), hflags⟩

variable {admits : Flags → Prop}

mutual
/-- A pattern outlines its meaning under admitted flags, and the flags behind it are admitted
again. -/
theorem outlines_of_admitted (hfolds : ∀ flags, admits flags → flags.FoldsBy key) :
    ∀ (pattern : Pattern) {flags after : Flags} {node : Node},
    KeptBy admits pattern.flagChanges → admits flags →
      pattern.meaningUnder flags = .ok (node, after) → Outlines key pattern node ∧ admits after
  | .empty, _, _, _, _, hflags, h => by
    cases h
    exact ⟨.empty rfl, hflags⟩
  | .flags change, flags, _, _, hkept, hflags, h => by
    cases h
    exact ⟨.empty rfl, hkept change List.mem_cons_self flags hflags⟩
  | .assertion kind, _, _, _, _, hflags, h => by
    cases h
    exact ⟨.look kind _, hflags⟩
  | .literal _, flags, _, _, _, hflags, h => by
    have hfold := hfolds flags hflags
    exact outlines_one hflags h fun hset _ hc => Onset.holdsLike_literalRanges hfold hset hc
  | .dot _, _, _, _, _, hflags, h => outlines_one hflags h fun _ c _ => (Onset.holds_all c).like
  | .property _, _, _, _, _, hflags, h =>
    outlines_one hflags h fun _ c _ => (Onset.holds_all c).like
  | .perl _, _, _, _, _, hflags, h =>
    outlines_one hflags h fun hset _ hc => (Onset.holds_perlRanges hset hc).like
  | .bracketed span negated body, flags, _, _, _, hflags, h => by
    obtain ⟨inner, hinner, h⟩ := bind_eq_ok_iff.1 h
    have hfold := hfolds flags hflags
    have hbody := Onset.holdsLike_ofClass hfold body hinner
    exact outlines_one hflags h fun hset _ hc =>
      Onset.HoldsLike.complement (Onset.HoldsLike.fold hfold hbody) hset hc
  | .repetition kind body, _, _, _, hkept, hflags, h => by
    obtain ⟨⟨inner, later⟩, hinner, h⟩ := bind_eq_ok_iff.1 h
    cases h
    obtain ⟨houtlines, hlater⟩ := outlines_of_admitted hfolds body hkept hflags hinner
    exact ⟨.repetition kind houtlines, hlater⟩
  | .group .capturing body, _, _, _, hkept, hflags, h => by
    obtain ⟨⟨inner, later⟩, hinner, h⟩ := bind_eq_ok_iff.1 h
    cases h
    exact ⟨.capture (outlines_of_admitted hfolds body hkept hflags hinner).1, hflags⟩
  | .group (.flagged change) body, flags, _, _, hkept, hflags, h => by
    obtain ⟨⟨inner, later⟩, hinner, h⟩ := bind_eq_ok_iff.1 h
    cases h
    obtain ⟨hchange, hkept⟩ := List.forall_mem_cons.1 hkept
    have hinside := hchange flags hflags
    exact ⟨.flagged change (outlines_of_admitted hfolds body hkept hinside hinner).1, hflags⟩
  | .alternation branches, _, _, _, hkept, hflags, h => by
    obtain ⟨⟨nodes, later⟩, hnodes, h⟩ := bind_eq_ok_iff.1 h
    cases h
    obtain ⟨houtlines, hlater⟩ := outlines_of_admittedAll hfolds branches hkept hflags hnodes
    exact ⟨.alternation houtlines, hlater⟩
  | .concat parts, _, _, _, hkept, hflags, h => by
    obtain ⟨⟨nodes, later⟩, hnodes, h⟩ := bind_eq_ok_iff.1 h
    cases h
    obtain ⟨houtlines, hlater⟩ := outlines_of_admittedAll hfolds parts hkept hflags hnodes
    exact ⟨.concat houtlines, hlater⟩

theorem outlines_of_admittedAll (hfolds : ∀ flags, admits flags → flags.FoldsBy key) :
    ∀ (parts : List Pattern) {flags after : Flags} {nodes : List Node},
    KeptBy admits (Pattern.flagChanges.ofAll parts) → admits flags →
      Pattern.meaningUnder.meaningOfAll flags parts = .ok (nodes, after) →
        List.Forall₂ (Outlines key) parts nodes ∧ admits after
  | [], _, _, _, _, hflags, h => by
    cases h
    exact ⟨.nil, hflags⟩
  | part :: parts, _, _, _, hkept, hflags, h => by
    obtain ⟨⟨node, later⟩, hnode, h⟩ := bind_eq_ok_iff.1 h
    obtain ⟨⟨nodes, last⟩, hnodes, h⟩ := bind_eq_ok_iff.1 h
    cases h
    obtain ⟨hfirst, hrest⟩ := List.forall_mem_append.1 hkept
    obtain ⟨houtlines, hlater⟩ := outlines_of_admitted hfolds part hfirst hflags hnode
    obtain ⟨hothers, hlast⟩ := outlines_of_admittedAll hfolds parts hrest hlater hnodes
    exact ⟨.cons houtlines hothers, hlast⟩
end

/-- A pattern outlines its meaning under flags by which letter case counts, and by the flags behind
it letter case counts again. -/
theorem outlines_of_meaningUnder {pattern : Pattern} {flags after : Flags}
    (hcounts : Pattern.CaseCounts pattern.flagChanges) (hcase : flags.caseInsensitive = false)
    (h : pattern.meaningUnder flags = .ok (node, after)) :
    Outlines id pattern node ∧ after.caseInsensitive = false :=
  outlines_of_admitted (fun _ hcase => Flags.foldsBy_id hcase) pattern
    (fun _ hchange _ hcase => Flags.apply_caseInsensitive (hcounts _ hchange) hcase) hcase h

/-! ## Onsets of outlines -/

theorem exists_of_mem_outlined {patterns : List Pattern} {nodes : List Node}
    (h : List.Forall₂ (Outlines key) patterns nodes) (hmem : node ∈ nodes) :
    ∃ pattern ∈ patterns, Outlines key pattern node := by
  induction h with
  | nil => cases hmem
  | cons hfirst _ ih =>
    rcases List.mem_cons.1 hmem with rfl | hmem
    · exact ⟨_, List.mem_cons_self, hfirst⟩
    · obtain ⟨pattern, hpattern, houtlines⟩ := ih hmem
      exact ⟨pattern, List.mem_cons_of_mem _ hpattern, houtlines⟩

theorem Covers.holds {onset : Onset × Bool} {c : Char} (h : Covers id onset node)
    (hbegins : Begins node c) : onset.1.Holds c :=
  Onset.holdsLike_id.1 (h.begins c hbegins)

theorem Covers.repetition {onset : Onset × Bool} (h : Covers key onset node) (least : Nat)
    (most : Option Nat) :
    Covers key (onset.1, onset.2 || decide (least = 0)) (.repetition least most node) := by
  constructor
  · rintro c ⟨rest, hword⟩
    obtain ⟨words, hwords, -, -, heq⟩ := Pattern.matches_repetition hword
    exact h.begins c (Pattern.begins_of_flatten hwords (by rw [← heq]; rfl))
  · intro hword
    obtain ⟨words, hwords, hleast, -, heq⟩ := Pattern.matches_repetition hword
    cases words with
    | nil => simp [Nat.le_zero.1 hleast]
    | cons first words =>
      obtain ⟨rfl, -⟩ := List.append_eq_nil_iff.1 heq.symm
      simp [h.empty (hwords [] List.mem_cons_self)]

mutual
/-- The onset of a pattern misses no beginning of a node that the pattern outlines. -/
theorem covers_of_outlines : ∀ (pattern : Pattern) {node : Node}, Outlines key pattern node →
    Covers key (Onset.ofPattern pattern) node
  | _, _, .empty hempty =>
    ⟨fun _ ⟨_, hword⟩ => (nomatch Pattern.matches_empty.1 hword), fun _ => by rw [hempty]⟩
  | _, _, .look _ _ =>
    ⟨fun _ ⟨_, hword⟩ => (nomatch Pattern.matches_look.1 hword), fun _ => rfl⟩
  | _, _, .one hset => by
    constructor
    · rintro c ⟨rest, hword⟩
      obtain ⟨d, hd, heq⟩ := Pattern.matches_one.1 hword
      obtain ⟨rfl, -⟩ := List.cons.inj heq
      exact hset c hd
    · intro hword
      obtain ⟨d, -, heq⟩ := Pattern.matches_one.1 hword
      cases heq
  | .repetition kind body, _, .repetition _ hbody =>
    (covers_of_outlines body hbody).repetition kind.least kind.most?
  | .group _ body, _, .capture hbody => by
    have hcovers := covers_of_outlines body hbody
    exact ⟨fun c hbegins => hcovers.begins c (Pattern.begins_capture.1 hbegins),
      fun hword => hcovers.empty (Pattern.matches_capture.1 hword)⟩
  | .group _ body, _, .flagged _ hbody => covers_of_outlines body hbody
  | .alternation branches, _, .alternation hbranches => covers_branches branches hbranches
  | .concat parts, _, .concat hparts => covers_parts parts hparts

theorem covers_branches : ∀ (branches : List Pattern) {nodes : List Node},
    List.Forall₂ (Outlines key) branches nodes →
      Covers key (Onset.ofPattern.ofBranches branches) (.alternation nodes)
  | [], _, .nil => by
    constructor
    · intro c hbegins
      obtain ⟨_, hmem, -⟩ := Pattern.begins_alternation.1 hbegins
      cases hmem
    · intro hword
      obtain ⟨_, hmem, -⟩ := Pattern.matches_alternation.1 hword
      cases hmem
  | branch :: branches, _, .cons hbranch hbranches => by
    have hfirst := covers_of_outlines branch hbranch
    have hothers := covers_branches branches hbranches
    unfold Onset.ofPattern.ofBranches
    constructor
    · intro c hbegins
      obtain ⟨node, hmem, hnode⟩ := Pattern.begins_alternation.1 hbegins
      rw [Onset.holdsLike_union]
      rcases List.mem_cons.1 hmem with rfl | hmem
      · exact Or.inl (hfirst.begins c hnode)
      · exact Or.inr (hothers.begins c (Pattern.begins_alternation.2 ⟨node, hmem, hnode⟩))
    · intro hword
      obtain ⟨node, hmem, hnode⟩ := Pattern.matches_alternation.1 hword
      rw [Bool.or_eq_true]
      rcases List.mem_cons.1 hmem with rfl | hmem
      · exact Or.inl (hfirst.empty hnode)
      · exact Or.inr (hothers.empty (Pattern.matches_alternation.2 ⟨node, hmem, hnode⟩))

theorem covers_parts : ∀ (parts : List Pattern) {nodes : List Node},
    List.Forall₂ (Outlines key) parts nodes → Covers key (Onset.ofPattern.ofParts parts) (.concat nodes)
  | [], _, .nil => ⟨fun _ ⟨_, hword⟩ => (nomatch Pattern.matches_nil.1 hword), fun _ => rfl⟩
  | part :: parts, _, .cons hpart hparts => by
    have hfirst := covers_of_outlines part hpart
    have hothers := covers_parts parts hparts
    unfold Onset.ofPattern.ofParts
    cases hnullable : (Onset.ofPattern part).2 with
    | true =>
      simp only [hnullable, if_true]
      constructor
      · intro c hbegins
        rw [Onset.holdsLike_union]
        exact (Pattern.begins_cons hbegins).imp (hfirst.begins c) fun h => hothers.begins c h.2
      · intro hword
        obtain ⟨front, back, -, hback, heq⟩ := Pattern.matches_cons.1 hword
        obtain ⟨-, rfl⟩ := List.append_eq_nil_iff.1 heq.symm
        exact hothers.empty hback
    | false =>
      have hnonempty := mt hfirst.empty (by simp [hnullable])
      simp only [hnullable, Bool.false_eq_true, if_false]
      constructor
      · intro c hbegins
        rcases Pattern.begins_cons hbegins with hbegins | ⟨hempty, -⟩
        · exact hfirst.begins c hbegins
        · exact absurd hempty hnonempty
      · intro hword
        obtain ⟨front, back, hfront, -, heq⟩ := Pattern.matches_cons.1 hword
        obtain ⟨rfl, -⟩ := List.append_eq_nil_iff.1 heq.symm
        exact absurd hfront hnonempty
end

end Format

end Schemata
