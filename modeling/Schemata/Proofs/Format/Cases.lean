import Schemata.Proofs.Format.Rules
import Schemata.Proofs.Unicode.CaseFold

/-!
# Letter case and the guard

Where letter case does not count, two branches of a repeated choice may begin with the same letter
though they write it in different cases. The guard does not follow flags; it takes the other cases of
a character along where the character is written by itself, and does not where it is the end of a
range or within one. So it finds such branches if what it takes for the beginnings of one of them
holds all cases of what that one begins with, and for a branch that is one character or class this
cannot be weakened.

    folding adds nothing but letters that are there                           (foldsBy_letter)
    a branch that shows its cases, beside one with a beginning in common → unsafe
                                                                          (analyze_of_shares)
    a character or class is found beside every such neighbour ↔ it shows its cases
                                                                     (found_iff_showsCases)
-/

namespace Schemata

open Unicode (CodeRanges)

namespace Unicode

def letter (c : Char) : Nat := fold c.toNat

end Unicode

namespace Format

open Pattern (Node Flags PartAt MatchesUnder BeginsUnder)
open Unicode (letter)

/-! ## Algorithm -/

/-- Two different branches of a body that is a choice, where it stands, can begin with the same
character. -/
def Shares (flags : Flags) (body : Pattern) (first second : Flags × Pattern) : Prop :=
  ∃ i j : Nat, i ≠ j ∧ (body.branchesIn flags)[i]? = some first ∧
    (body.branchesIn flags)[j]? = some second ∧
      ∃ c, BeginsUnder first.1 first.2 c ∧ BeginsUnder second.1 second.2 c

/-- What the guard takes for the beginnings of a branch holds all cases of what it begins with. -/
def ShowsCases (flags : Flags) (branch : Pattern) : Prop :=
  ∀ c d, BeginsUnder flags branch c → letter d = letter c → (Onset.ofPattern branch).1.Holds d

/-- A pattern for one character: a literal, the dot or a class. -/
def IsCharacter : Pattern → Prop
  | .literal _ => True
  | .dot _ => True
  | .property _ => True
  | .perl _ => True
  | .bracketed _ _ _ => True
  | _ => False

def choiceOf (first second : Pattern) : Pattern := .group .capturing (.alternation [first, second])

/-- A class in brackets for the characters from one to itself. -/
def rangeOf (c : Char) : Pattern :=
  .bracketed ⟨0, 5⟩ false (.range ⟨⟨1, 2⟩, c, false⟩ ⟨⟨3, 4⟩, c, false⟩)

variable {flags later : Flags} {pattern body branch other : Pattern} {first second : Flags × Pattern}
  {kind : Pattern.RepetitionKind} {c d : Char} {n : Nat}

/-! ## Folding -/

/-- With both cases of its letters of ASCII a set holds nothing but letters that are in it. -/
theorem exists_of_closeUnderAsciiCase {set : CodeRanges}
    (h : CodeRanges.contains (Pattern.closeUnderAsciiCase set) n = true) :
    ∃ e, CodeRanges.contains set e = true ∧ Unicode.fold e = Unicode.fold n := by
  unfold Pattern.closeUnderAsciiCase at h
  rcases CodeRanges.contains_union.1 h with hset | hshifted
  · exact ⟨n, hset, rfl⟩
  · obtain ⟨shifted, hmem, hlo, hhi⟩ := CodeRanges.contains_iff.1
      (CodeRanges.contains_ofList.1 hshifted)
    obtain ⟨range, hrange, hmem⟩ := List.mem_flatMap.1 hmem
    rcases List.mem_cons.1 hmem with rfl | hmem
    · -- a small letter whose capital letter is in the set
      dsimp only at hlo hhi
      refine ⟨n - 32, CodeRanges.contains_iff.2 ⟨range, hrange, by omega, by omega⟩, ?_⟩
      rw [Unicode.fold_upper (by omega) (by omega), Unicode.fold_lower (by omega) (by omega)]
      omega
    · obtain rfl := List.mem_singleton.1 hmem
      dsimp only at hlo hhi
      refine ⟨n + 32, CodeRanges.contains_iff.2 ⟨range, hrange, by omega, by omega⟩, ?_⟩
      rw [Unicode.fold_lower (by omega) (by omega), Unicode.fold_upper (by omega) (by omega)]

/-- A code point with the folding of a character is a character. -/
theorem exists_char_of_fold (h : Unicode.fold n = letter c) : ∃ d : Char, d.toNat = n := by
  have hvalid : n.isValidChar := by
    rw [← Unicode.isValidChar_fold, h]
    exact Unicode.isValidChar_fold.2 c.valid
  exact ⟨Char.ofNat n, Unicode.toNat_ofNat hvalid⟩

/-- Folding adds nothing to a set but letters that are in it. -/
theorem foldsBy_letter (flags : Flags) : flags.FoldsBy letter := by
  intro set c hc
  have hfolded : ∃ e, CodeRanges.contains set e = true ∧ Unicode.fold e = letter c := by
    unfold Flags.fold at hc
    split at hc
    · split at hc
      · exact Unicode.contains_closeUnderCase.1 hc
      · exact exists_of_closeUnderAsciiCase hc
    · exact ⟨c.toNat, hc, rfl⟩
  obtain ⟨e, he, heq⟩ := hfolded
  obtain ⟨d, rfl⟩ := exists_char_of_fold heq
  exact ⟨d, heq, he⟩

/-- The onset of a pattern holds, in some case, each letter that the pattern begins with. -/
theorem holdsLike_of_beginsUnder (h : BeginsUnder flags pattern c) :
    (Onset.ofPattern pattern).1.HoldsLike letter c := by
  obtain ⟨rest, node, after, hmeaning, hword⟩ := h
  have hfolds : ∀ flags : Flags, True → flags.FoldsBy letter := fun flags _ => foldsBy_letter flags
  have houtlines := (outlines_of_admitted hfolds pattern (fun _ _ _ _ => trivial) trivial hmeaning).1
  exact (covers_of_outlines pattern houtlines).begins c ⟨rest, hword⟩

/-- An onset that holds all cases of its letters shows the cases. -/
theorem showsCases_of_closed
    (hclosed : ∀ d e, letter d = letter e → (Onset.ofPattern branch).1.Holds e →
      (Onset.ofPattern branch).1.Holds d) : ShowsCases flags branch := by
  intro c d hbegins hletter
  obtain ⟨e, he, hholds⟩ := holdsLike_of_beginsUnder hbegins
  exact hclosed d e (hletter.trans he.symm) hholds

/-! ## Branches that begin alike -/

theorem branchHazard?_eq_none {branches : List (Onset × Bool)} :
    branchHazard? branches = none ↔ (∀ branch ∈ branches, branch.2 = false) ∧
      branches.Pairwise fun first second => ¬ first.1.overlaps second.1 = true := by
  induction branches with
  | nil => simp [branchHazard?]
  | cons first branches ih =>
    rw [branchHazard?_cons, ih, List.forall_mem_cons, List.pairwise_cons]
    exact ⟨fun h => ⟨⟨h.1, h.2.2.1⟩, h.2.1, h.2.2.2⟩, fun h => ⟨h.1.1, h.2.1, h.1.2, h.2.2⟩⟩

/-- The onsets of two branches that can begin with the same character have one in common, if one of
them shows its cases. -/
theorem exists_holds_of_shares (hfirst : BeginsUnder first.1 first.2 c)
    (hsecond : BeginsUnder second.1 second.2 c) (hshows : ShowsCases first.1 first.2) :
    ∃ d, (Onset.ofPattern first.2).1.Holds d ∧ (Onset.ofPattern second.2).1.Holds d := by
  obtain ⟨d, hletter, hholds⟩ := holdsLike_of_beginsUnder hsecond
  exact ⟨d, hshows c d hfirst hletter, hholds⟩

/-- The guard finds two such branches in the body of an unbounded repetition at any depth. -/
theorem hazard?_of_shares (hpart : PartAt flags pattern later (.repetition kind body))
    (hunbounded : kind.isUnbounded = true) (hshares : Shares later body first second)
    (hshows : ShowsCases first.1 first.2) : hazard? pattern ≠ none := by
  intro hnone
  have hbranches := (bodyHazard?_eq_none.1 (bodyHazard?_of_part hnone hpart hunbounded)).2
  rw [branchesOf_eq later body, List.map_map] at hbranches
  have hapart := List.pairwise_map.1 (branchHazard?_eq_none.1 hbranches).2
  obtain ⟨i, j, hne, hi, hj, c, hfirst, hsecond⟩ := hshares
  obtain ⟨d, hd, hd'⟩ := exists_holds_of_shares hfirst hsecond hshows
  obtain ⟨hi', rfl⟩ := List.getElem?_eq_some_iff.1 hi
  obtain ⟨hj', rfl⟩ := List.getElem?_eq_some_iff.1 hj
  rcases Nat.lt_or_gt_of_ne hne with hlt | hlt
  · exact List.pairwise_iff_getElem.1 hapart i j hi' hj' hlt (Onset.overlaps_of_holds hd hd')
  · exact List.pairwise_iff_getElem.1 hapart j i hj' hi' hlt (Onset.overlaps_of_holds hd' hd)

theorem analyze_of_shares {text : String} (hread : Pattern.read text = .ok pattern)
    (hpart : PartAt Flags.initial pattern flags (.repetition kind body))
    (hunbounded : kind.isUnbounded = true) (hshares : Shares flags body first second)
    (hshows : ShowsCases first.1 first.2) : analyze text ≠ .safe :=
  mt (analyze_eq_safe_iff hread).1 (hazard?_of_shares hpart hunbounded hshares hshows)

/-! ## Characters as branches -/

theorem flagsAfter_of_isCharacter (h : IsCharacter branch) (flags : Flags) :
    branch.flagsAfter flags = flags := by
  cases branch with
  | literal _ => rfl
  | dot _ => rfl
  | property _ => rfl
  | perl _ => rfl
  | bracketed _ _ _ => rfl
  | _ => exact h.elim

/-- With one character alone nothing is wrong: it is not empty, and nothing in it varies. -/
theorem harmless_of_isCharacter (h : IsCharacter branch) :
    hazard? branch = none ∧ variableBodies branch = [] ∧ (Onset.ofPattern branch).2 = false := by
  cases branch with
  | literal _ => exact ⟨rfl, rfl, rfl⟩
  | dot _ => exact ⟨rfl, rfl, rfl⟩
  | property _ => exact ⟨rfl, rfl, rfl⟩
  | perl _ => exact ⟨rfl, rfl, rfl⟩
  | bracketed _ _ _ => exact ⟨rfl, rfl, rfl⟩
  | _ => exact h.elim

theorem branchesIn_choiceOf (h : IsCharacter branch) :
    (choiceOf branch other).branchesIn flags = [(flags, branch), (flags, other)] := by
  show [(flags, branch), (branch.flagsAfter flags, other)] = _
  rw [flagsAfter_of_isCharacter h]

/-- Two characters, repeated, are a hazard only if their onsets overlap. -/
theorem overlaps_of_hazard? (hbranch : IsCharacter branch) (hother : IsCharacter other)
    (h : hazard? (.repetition .zeroOrMore (choiceOf branch other)) ≠ none) :
    (Onset.ofPattern branch).1.overlaps (Onset.ofPattern other).1 = true := by
  obtain ⟨hnone, hvariable, hnullable⟩ := harmless_of_isCharacter hbranch
  obtain ⟨hnone', hvariable', hnullable'⟩ := harmless_of_isCharacter hother
  refine Decidable.byContradiction fun hapart => h ?_
  have hinner : hazard? (choiceOf branch other) = none :=
    hazardOfAll?_eq_none.2 (List.forall_mem_cons.2 ⟨hnone, List.forall_mem_singleton.2 hnone'⟩)
  have hbody : bodyHazard? (choiceOf branch other) = none := by
    refine bodyHazard?_eq_none.2 ⟨fun inner hmem => ?_, branchHazard?_eq_none.2 ⟨?_, ?_⟩⟩
    · have hempty : variableBodies (choiceOf branch other) = [] := by
        show variableBodies branch ++ (variableBodies other ++ []) = []
        rw [hvariable, hvariable']
        rfl
      rw [hempty] at hmem
      cases hmem
    · exact List.forall_mem_cons.2 ⟨hnullable, List.forall_mem_singleton.2 hnullable'⟩
    · exact List.pairwise_pair.2 hapart
  exact (Option.orElse_eq_none _ _).2 ⟨hbody, hinner⟩

theorem holds_of_overlaps_between {set : Onset} (h : set.overlaps (.between d.toNat d.toNat) = true) :
    set.Holds d := by
  unfold Onset.overlaps at h
  split at h
  · cases h
  · split at h
    · next hany => exact Or.inl (by simpa [Onset.between] using hany)
    · split at h
      · next hbeyond =>
        simp [Onset.between, Onset.hasRangeBeyondAscii] at hbeyond
        exact Or.inr (Or.inl hbeyond)
      · obtain ⟨range, hrange, hboth⟩ := List.any_eq_true.1 h
        simp [Onset.between] at hboth
        exact Or.inr (Or.inr ⟨range, hrange, hboth⟩)

theorem onset_rangeOf (d : Char) : (Onset.ofPattern (rangeOf d)).1 = .between d.toNat d.toNat := rfl

/-- Where letter case does not count, a class in brackets begins with every case of what is in it. -/
theorem beginsUnder_bracketed {span : Pattern.Span} {cls : Pattern.ClassSet} {set : CodeRanges}
    (hcase : flags.caseInsensitive = true) (hunicode : flags.unicode = true)
    (hranges : cls.ranges flags = .ok set) (hd : CodeRanges.contains set d.toNat = true)
    (hletter : letter d = letter c) : BeginsUnder flags (.bracketed span false cls) c := by
  have hone : Pattern.Matches (.one (flags.fold set)) [c] := by
    refine Pattern.matches_one.2 ⟨c, ?_, rfl⟩
    unfold Flags.fold
    rw [if_pos hcase, if_pos hunicode]
    exact Unicode.contains_closeUnderCase.2 ⟨d.toNat, hd, hletter⟩
  refine ⟨[], .one (flags.fold set), flags, ?_, hone⟩
  exact bind_eq_ok_iff.2 ⟨set, hranges, rfl⟩

theorem beginsUnder_rangeOf (hcase : flags.caseInsensitive = true)
    (hunicode : flags.unicode = true) (hletter : letter d = letter c) :
    BeginsUnder flags (rangeOf d) c := by
  have hchar : ∀ l : Pattern.Literal, flags.classChar l = .ok l.char.toNat :=
    fun l => if_pos (Or.inl hunicode)
  have hranges : (Pattern.ClassSet.range ⟨⟨1, 2⟩, d, false⟩ ⟨⟨3, 4⟩, d, false⟩).ranges flags =
      .ok [(d.toNat, d.toNat)] :=
    bind_eq_ok_iff.2 ⟨_, hchar _, bind_eq_ok_iff.2 ⟨_, hchar _, rfl⟩⟩
  exact beginsUnder_bracketed hcase hunicode hranges (by simp [CodeRanges.contains]) hletter

/-! ## Top theorem -/

/-- Two different branches of an unbounded repetition that can begin with the same character are found
if one of them shows its cases. Where letter case does not count, a branch that is a character or
class shows its cases exactly if it is found beside everything with which it has a beginning in
common. -/
theorem found_iff_showsCases {text : String} (hread : Pattern.read text = .ok pattern)
    (hpart : PartAt Flags.initial pattern flags (.repetition kind body))
    (hunbounded : kind.isUnbounded = true) (hshares : Shares flags body first second) :
    (ShowsCases first.1 first.2 → analyze text ≠ .safe) ∧
      (first.1.caseInsensitive = true → first.1.unicode = true → IsCharacter first.2 →
        ((∀ other, Shares first.1 (choiceOf first.2 other) first (first.1, other) →
          hazard? (.repetition .zeroOrMore (choiceOf first.2 other)) ≠ none) ↔
            ShowsCases first.1 first.2)) := by
  refine ⟨analyze_of_shares hread hpart hunbounded hshares, fun hcase hunicode hcharacter => ?_⟩
  constructor
  · intro hfound c d hbegins hletter
    have hother := beginsUnder_rangeOf hcase hunicode hletter
    have hneighbour : Shares first.1 (choiceOf first.2 (rangeOf d)) first (first.1, rangeOf d) := by
      unfold Shares
      rw [branchesIn_choiceOf hcharacter]
      exact ⟨0, 1, Nat.zero_ne_one, rfl, rfl, c, hbegins, hother⟩
    have hrange : IsCharacter (rangeOf d) := trivial
    have hoverlaps := overlaps_of_hazard? hcharacter hrange (hfound _ hneighbour)
    exact holds_of_overlaps_between (onset_rangeOf d ▸ hoverlaps)
  · intro hshows other hneighbour
    exact hazard?_of_shares .here rfl hneighbour hshows

/-- The flags behind a change by which letter case does not count any more. -/
def insensitive : Flags := Flags.initial.apply ⟨[.caseInsensitive], []⟩

def repeatedInsensitive (first second : Pattern) : Pattern :=
  .concat [.flags ⟨[.caseInsensitive], []⟩, .repetition .zeroOrMore (choiceOf first second)]

def rangeAt (start : Nat) (first last : Char) : Pattern.ClassSet :=
  .range ⟨⟨start, start + 1⟩, first, false⟩ ⟨⟨start + 2, start + 3⟩, last, false⟩

def smallHalf : Pattern := .bracketed ⟨5, 10⟩ false (rangeAt 6 'a' 'm')

def capitalHalf : Pattern := .bracketed ⟨11, 16⟩ false (rangeAt 12 'A' 'M')

/-- The first ten letters, written in both cases. -/
def bothCases : Pattern :=
  .bracketed ⟨11, 19⟩ false (.union [rangeAt 12 'A' 'J', rangeAt 15 'a' 'j'])

theorem partAt_repeatedInsensitive (first second : Pattern) :
    PartAt Flags.initial (repeatedInsensitive first second) insensitive
      (.repetition .zeroOrMore (choiceOf first second)) :=
  .inside .here (List.mem_cons_of_mem _ List.mem_cons_self)

theorem holds_bothCases :
    (Onset.ofPattern bothCases).1.Holds c ↔
      (65 ≤ c.toNat ∧ c.toNat ≤ 74) ∨ 97 ≤ c.toNat ∧ c.toNat ≤ 106 := by
  have honset : (Onset.ofPattern bothCases).1 = ⟨false, false, [(65, 74), (97, 106)]⟩ := rfl
  rw [honset]
  simp [Onset.Holds]

/-- No other character is one of these letters in another case. -/
theorem showsCases_bothCases : ShowsCases flags bothCases := by
  have hsources : ∀ pair ∈ Unicode.foldPairs, 97 ≤ pair.2 → pair.2 ≤ 106 →
      65 ≤ pair.1 ∧ pair.1 ≤ 74 := by decide +kernel
  refine showsCases_of_closed fun d e hletter he => holds_bothCases.2 ?_
  have hfold : 97 ≤ letter d ∧ letter d ≤ 106 := by
    rw [hletter]
    unfold letter
    rcases holds_bothCases.1 he with ⟨hlo, hhi⟩ | ⟨hlo, hhi⟩
    · rw [Unicode.fold_upper hlo (by omega)]
      omega
    · rw [Unicode.fold_lower hlo (by omega)]
      omega
  rcases Unicode.fold_eq_or_mem d.toNat with hself | hmem
  · unfold letter at hfold
    rw [hself] at hfold
    exact Or.inr hfold
  · exact Or.inl (hsources _ hmem hfold.1 hfold.2)

/-- Half an alphabet in small letters and in capital letters is taken for safe; that the branches have
all beginnings in common is found where one of them is written in both cases. -/
theorem found_iff_showsCases_of_letters :
    (analyze "(?i)([a-m]|[A-M])*" = .safe ∧
      Pattern.read "(?i)([a-m]|[A-M])*" = .ok (repeatedInsensitive smallHalf capitalHalf) ∧
        Shares insensitive (choiceOf smallHalf capitalHalf) (insensitive, smallHalf)
          (insensitive, capitalHalf) ∧
          ¬ ShowsCases insensitive smallHalf) ∧
      Pattern.read "(?i)([a-m]|[A-Ja-j])*" = .ok (repeatedInsensitive smallHalf bothCases) ∧
        analyze "(?i)([a-m]|[A-Ja-j])*" ≠ .safe := by
  have hsafe : analyze "(?i)([a-m]|[A-M])*" = .safe := by decide +kernel
  have hread : Pattern.read "(?i)([a-m]|[A-M])*" =
    .ok (repeatedInsensitive smallHalf capitalHalf) := by rfl
  have hread' : Pattern.read "(?i)([a-m]|[A-Ja-j])*" =
    .ok (repeatedInsensitive smallHalf bothCases) := by rfl
  have hsmall : BeginsUnder insensitive smallHalf 'a' := by
    have hranges : (rangeAt 6 'a' 'm').ranges insensitive = .ok [(97, 109)] := rfl
    have hmem : CodeRanges.contains [(97, 109)] 'a'.toNat = true := rfl
    exact beginsUnder_bracketed rfl rfl hranges hmem rfl
  have hcapital : BeginsUnder insensitive capitalHalf 'a' := by
    have hranges : (rangeAt 12 'A' 'M').ranges insensitive = .ok [(65, 77)] := rfl
    have hmem : CodeRanges.contains [(65, 77)] 'A'.toNat = true := rfl
    exact beginsUnder_bracketed rfl rfl hranges hmem (by decide +kernel)
  have hboth : BeginsUnder insensitive bothCases 'a' := by
    have hranges : (Pattern.ClassSet.union [rangeAt 12 'A' 'J', rangeAt 15 'a' 'j']).ranges
      insensitive = .ok (CodeRanges.union [(65, 74)] (CodeRanges.union [(97, 106)] [])) := rfl
    have hmem : CodeRanges.contains [(97, 106)] 'a'.toNat = true := rfl
    have hunion : (CodeRanges.union [(97, 106)] []).contains 'a'.toNat = true :=
      CodeRanges.contains_union.2 (Or.inl hmem)
    exact beginsUnder_bracketed rfl rfl hranges (CodeRanges.contains_union.2 (Or.inr hunion)) rfl
  have hshares : Shares insensitive (choiceOf smallHalf capitalHalf) (insensitive, smallHalf)
      (insensitive, capitalHalf) :=
    ⟨0, 1, Nat.zero_ne_one, rfl, rfl, 'a', hsmall, hcapital⟩
  have hshares' : Shares insensitive (choiceOf smallHalf bothCases) (insensitive, bothCases)
      (insensitive, smallHalf) :=
    ⟨1, 0, Nat.one_ne_zero, rfl, rfl, 'a', hboth, hsmall⟩
  refine ⟨⟨hsafe, hread, hshares, fun hshows => ?_⟩, hread', ?_⟩
  · have hcharacter : IsCharacter smallHalf := trivial
    have hexact := (found_iff_showsCases hread (partAt_repeatedInsensitive _ _) rfl hshares).2
    exact (hexact rfl rfl hcharacter).2 hshows capitalHalf hshares rfl
  · have hfound := (found_iff_showsCases hread' (partAt_repeatedInsensitive _ _) rfl hshares').1
    exact hfound showsCases_bothCases

end Format

end Schemata
