import Schemata.Proofs.Format.Rules
import Schemata.Proofs.Pattern.Ambiguity

/-!
# What a safe format may still do

A safe format is installed as it is asked for. An unbounded repetition in it is not pathological
exactly if no word has two ways through it. The two rules of the guard see to that where the next
character, or the match of a branch, decides everything that they do not look at, and the onsets of
the repetition miss none of its characters.

    letter case counts in a repetition → its onsets miss nothing          (outlines_of_meaningUnder)
    decided where the rules do not look → no word has two derivations          (unambiguous_of_safe)
    not pathological ↔ no word has two ways                           (guard_not_pathological_iff)

Where the rules do not look, a safe format can be pathological: they say nothing of two parts in a
row that compete for the same characters.
-/

namespace Schemata.Format

open Pattern (Node Flags PartAt CaseCountsUnder Derives Matches Begins Decided Unambiguous
  UnambiguousRounds Pathological)
open Unicode (CodeRanges)

variable {pattern body : Pattern} {flags later after : Flags} {kind : Pattern.RepetitionKind}
  {node : Node}

/-- An unbounded repetition in which nothing is found is unambiguous, if it is decided where the two
rules do not look. -/
theorem unambiguous_of_safe (hnone : hazard? pattern = none)
    (hpart : PartAt flags pattern later (.repetition kind body))
    (houtlines : Outlines id (.repetition kind body) node)
    (hdecided : Decided unbounded false node) : Unambiguous node := by
  have hfound : hazard? (.repetition kind body) = none :=
    hpart.of_step (motive := fun _ part => hazard? part = none)
      (fun _ _ houter => hazard?_partsIn houter) hnone
  have hrules := rules_of_hazard? (.repetition kind body) houtlines hfound
  exact Pattern.unambiguous_of_determined node (Pattern.determined_of_rules node false hrules
    (fun h => absurd h Bool.false_ne_true) hdecided)

/-! ## Top theorem -/

/-- A safe format is installed as it is asked for. A repetition in it without a greatest count is not
pathological exactly if no word has two ways through it, and this is so if it is decided where the two
rules do not look and its onsets miss nothing, as they do not where letter case counts. -/
theorem guard_not_pathological_iff {name text : String}
    (hsafe : (guard name text).verdict = .safe) :
    ∃ pattern node, Pattern.read text = .ok pattern ∧ pattern.meaning = .ok node ∧
      (guard name text).installed = text ∧ (guard name text).node = some node ∧
      ∀ flags kind body, PartAt Flags.initial pattern flags (.repetition kind body) →
        ∃ inner after, (Pattern.repetition kind body).meaningUnder flags = .ok (inner, after) ∧
          (kind.most? = none → (¬ Pathological inner ↔ UnambiguousRounds inner)) ∧
          (CaseCountsUnder flags (.repetition kind body) →
            Outlines id (.repetition kind body) inner) ∧
          (Outlines id (.repetition kind body) inner → Decided unbounded false inner →
            Unambiguous inner ∧ ¬ Pathological inner) := by
  obtain ⟨node, hcompile, hguard⟩ := guard_safe hsafe
  obtain ⟨pattern, hread, hnone, hmeaning⟩ := compile_ok hcompile
  obtain ⟨result, hresult, -⟩ := map_eq_ok_iff.1 hmeaning
  refine ⟨pattern, node, hread, hmeaning, by rw [hguard], by rw [hguard], ?_⟩
  intro flags kind body hpart
  obtain ⟨⟨inner, after⟩, hinner⟩ := hpart.hasMeaning ⟨result, hresult⟩
  refine ⟨inner, after, hinner, fun hmost => ?_, fun hcase => ?_, fun houtlines hdecided => ?_⟩
  · obtain ⟨⟨round, _⟩, -, hround⟩ := bind_eq_ok_iff.1 hinner
    cases hround
    rw [hmost]
    exact Pattern.not_pathological_iff
  · exact (outlines_of_meaningUnder hcase.changes hcase.front hinner).1
  · have hunambiguous := unambiguous_of_safe hnone hpart houtlines hdecided
    exact ⟨hunambiguous, Pattern.not_pathological_of_unambiguousRounds
      (Pattern.unambiguousRounds_of_unambiguous hunambiguous)⟩

/-! ## Letters with digits, and words with a letter -/

/-- The characters of a word, one after the other. -/
def letters (word : List Char) : Node := .concat (word.map fun c => .one (CodeRanges.single c))

def digits : Node := .repetition 0 none (.one [(48, 57)])

/-- A letter, and two rows of digits behind it, any number of times. -/
def numberedLetters : Node :=
  .repetition 0 none (.capture (.concat [.one [(97, 122)], digits, digits]))

/-- One of two words that start alike, and a letter behind it, any number of times. -/
def endedWords : Node :=
  .repetition 0 none (.capture (.concat
    [.capture (.alternation [letters ['a', 'b'], letters ['a', 'c']]), .one (CodeRanges.single 'd')]))

/-- The digits may stand in either row. -/
theorem not_unambiguousRounds_numberedLetters : ¬ UnambiguousRounds numberedLetters := by
  intro hunambiguous
  have hletter : Derives (.one [(97, 122)]) ['a'] [] := .one rfl
  have hdigit : Derives digits ['0'] [1] :=
    .repetition [(['0'], [])] (List.forall_mem_singleton.2 (.one rfl)) (Nat.zero_le _)
      (fun _ hcount => (nomatch hcount))
  have hnone : Derives digits [] [0] :=
    .repetition [] (List.forall_mem_nil _) (Nat.zero_le _) (fun _ hcount => (nomatch hcount))
  have hround : ∀ {choices}, Derives (.concat [digits, digits]) ['0'] choices →
      Derives numberedLetters ['a', '0'] (1 :: choices) := by
    intro choices hdigits
    have hbody := Derives.capture (.cons hletter hdigits)
    refine Pattern.derives_repetition.2 ⟨[(['a', '0'], choices)],
      List.forall_mem_singleton.2 hbody, Nat.zero_le _, fun _ hcount => (nomatch hcount), rfl, ?_⟩
    simp
  have hfirst := hround (.cons hdigit (.cons hnone .nil))
  have hsecond := hround (.cons hnone (.cons hdigit .nil))
  exact absurd (hunambiguous _ _ _ _ _ hfirst hsecond) (by decide)

theorem matches_letters {word found : List Char} : Matches (letters word) found ↔ found = word := by
  induction word generalizing found with
  | nil => exact Pattern.matches_nil
  | cons c word ih =>
    constructor
    · intro h
      obtain ⟨front, back, hfront, hback, rfl⟩ := Pattern.matches_cons.1 h
      obtain ⟨d, hd, rfl⟩ := Pattern.matches_one.1 hfront
      rw [CodeRanges.contains_single hd, ih.1 hback]
      rfl
    · rintro rfl
      have hone : Matches (.one (CodeRanges.single c)) [c] :=
        Pattern.matches_one.2 ⟨c, by simp [CodeRanges.contains, CodeRanges.single], rfl⟩
      exact Pattern.matches_cons.2 ⟨[c], word, hone, ih.2 rfl, rfl⟩

theorem decided_letters (word : List Char) : Decided unbounded false (letters word) := by
  have hrow : ∀ word : List Char, Pattern.Sequential (word.map fun c => .one (CodeRanges.single c)) ∧
      Pattern.DecidedAll unbounded (word.map fun c => .one (CodeRanges.single c)) := by
    intro word
    induction word with
    | nil => exact ⟨trivial, trivial⟩
    | cons c word ih =>
      exact ⟨⟨fun _ hgoes => absurd hgoes Pattern.not_goesOn_one, ih.1⟩, trivial, ih.2⟩
  exact hrow word

/-- Neither of the two words starts the other, and both are of one length. -/
theorem decided_endedWords : Decided unbounded false endedWords := by
  have hword : ∀ {found}, Matches (.capture (.alternation
      [letters ['a', 'b'], letters ['a', 'c']])) found → found.length = 2 := by
    intro found hfound
    obtain ⟨branch, hbranch, hfound⟩ :=
      Pattern.matches_alternation.1 (Pattern.matches_capture.1 hfound)
    simp only [List.mem_cons, List.not_mem_nil, or_false] at hbranch
    rcases hbranch with rfl | rfl <;> rw [matches_letters.1 hfound] <;> rfl
  have hempty : ¬ Matches (.capture (.concat [.capture (.alternation
      [letters ['a', 'b'], letters ['a', 'c']]), .one (CodeRanges.single 'd')])) [] := by
    intro hempty
    obtain ⟨front, back, hfront, -, heq⟩ :=
      Pattern.matches_cons.1 (Pattern.matches_capture.1 hempty)
    obtain ⟨rfl, -⟩ := List.append_eq_nil_iff.1 heq.symm
    cases hword hfront
  have hfree : Pattern.PrefixFree [letters ['a', 'b'], letters ['a', 'c']] := by
    refine List.pairwise_pair.2 fun word rest => ⟨fun hfirst hsecond => ?_, fun hsecond hfirst => ?_⟩
    · rw [matches_letters.1 hfirst] at hsecond
      cases matches_letters.1 hsecond
    · rw [matches_letters.1 hsecond] at hfirst
      cases matches_letters.1 hfirst
  have hends : ∀ c, Pattern.GoesOn (.capture (.alternation
      [letters ['a', 'b'], letters ['a', 'c']])) c →
        ¬ Begins (.concat [.one (CodeRanges.single 'd')]) c := by
    rintro c ⟨word, rest, hshort, hlong⟩
    have hlength := hword hlong
    rw [List.length_append, hword hshort, List.length_cons] at hlength
    omega
  exact ⟨hempty, fun h => absurd h (by decide),
    ⟨hends, fun _ hgoes => absurd hgoes Pattern.not_goesOn_one, trivial⟩,
    ⟨fun _ => hfree, decided_letters _, decided_letters _, trivial⟩, trivial, trivial⟩

/-- Of two safe formats the one whose rounds can share out their digits is pathological, the one
with words that start alike is not. -/
theorem guard_not_pathological_iff_of_words :
    ((guard "code" "([a-z][0-9]*[0-9]*)*").verdict = .safe ∧
      (guard "code" "([a-z][0-9]*[0-9]*)*").installed = "([a-z][0-9]*[0-9]*)*" ∧
      (guard "code" "([a-z][0-9]*[0-9]*)*").node = some numberedLetters ∧
      Pathological numberedLetters) ∧
    (guard "code" "(?i:1)((ab|ac)d)*").verdict = .safe ∧
      (∃ first, (guard "code" "(?i:1)((ab|ac)d)*").node = some (.concat [first, endedWords])) ∧
      ¬ Pathological endedWords := by
  have hsafe : (guard "code" "([a-z][0-9]*[0-9]*)*").verdict = .safe := by decide +kernel
  have hsafe' : (guard "code" "(?i:1)((ab|ac)d)*").verdict = .safe := by decide +kernel
  refine ⟨⟨hsafe, ?_⟩, hsafe', ?_⟩
  · have hshape : ∃ body after, Pattern.read "([a-z][0-9]*[0-9]*)*" =
          .ok (.repetition .zeroOrMore body) ∧
        (Pattern.repetition .zeroOrMore body).meaningUnder Flags.initial =
          .ok (numberedLetters, after) := ⟨_, _, rfl, rfl⟩
    obtain ⟨body, after, hbody, hmeaning⟩ := hshape
    obtain ⟨pattern, node, hread, hnode, hinstalled, hguard, hparts⟩ :=
      guard_not_pathological_iff hsafe
    rw [hread] at hbody
    cases hbody
    obtain ⟨inner, _, hinner, hiff, -⟩ := hparts Flags.initial .zeroOrMore body .here
    rw [Pattern.meaning, hmeaning] at hnode
    cases hnode
    rw [hmeaning] at hinner
    cases hinner
    refine ⟨hinstalled, hguard, ?_⟩
    by_contra hharmless
    exact not_unambiguousRounds_numberedLetters ((hiff rfl).1 hharmless)
  · have hshape : ∃ first firstNode body after, Pattern.read "(?i:1)((ab|ac)d)*" =
          .ok (.concat [first, .repetition .zeroOrMore body]) ∧
        first.flagsAfter Flags.initial = Flags.initial ∧ body.flagChanges = [] ∧
        (Pattern.repetition .zeroOrMore body).meaningUnder Flags.initial =
          .ok (endedWords, after) ∧
        (Pattern.concat [first, .repetition .zeroOrMore body]).meaning =
          .ok (.concat [firstNode, endedWords]) := ⟨_, _, _, _, rfl, rfl, rfl, rfl, rfl⟩
    obtain ⟨first, firstNode, body, after, hbody, hflags, hchanges, hmeaning, hwhole⟩ := hshape
    obtain ⟨pattern, node, hread, hnode, -, hguard, hparts⟩ := guard_not_pathological_iff hsafe'
    rw [hread] at hbody
    cases hbody
    rw [hwhole] at hnode
    cases hnode
    have hpart : PartAt Flags.initial (.concat [first, .repetition .zeroOrMore body])
        Flags.initial (.repetition .zeroOrMore body) := by
      refine PartAt.here.inside (List.mem_cons_of_mem _ ?_)
      rw [hflags]
      exact List.mem_cons_self
    obtain ⟨inner, _, hinner, -, houtlines, hdecided⟩ := hparts _ _ _ hpart
    rw [hmeaning] at hinner
    cases hinner
    have hcounts : Pattern.CaseCounts body.flagChanges := by
      rw [hchanges]
      exact List.forall_mem_nil _
    exact ⟨⟨firstNode, hguard⟩, (hdecided (houtlines ⟨rfl, hcounts⟩) decided_endedWords).2⟩

end Schemata.Format
