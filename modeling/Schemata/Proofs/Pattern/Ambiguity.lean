import Mathlib.Algebra.Group.Nat.Defs
import Mathlib.Data.List.Nodup
import Mathlib.Data.Nat.Init
import Schemata.Proofs.Pattern.Derivation

/-!
# Ambiguous repetitions

A repetition without a greatest count that derives a word in two ways is pathological. The two ways,
one behind the other in either order, are two ways over the word twice, of as many choices each, and
every further round of them doubles the number of ways. If the order makes no difference, one way is
the start of the other; then the longer one has a round of the empty word in which something is
chosen, and such rounds can be added in any number.

    choices tell where a derivation ends, and how long its word is             (choices_cut)
    two ways over a word, of one length → pathological                 (pathological_of_two)
    choices over the empty word → pathological                       (pathological_of_empty)
    one way is the start of the other → choices over the empty word     (exists_empty_round)
    one way is the start of the other → pathological                (pathological_of_append)
    no greatest count: not pathological ↔ no word has two ways         (not_pathological_iff)
-/

namespace Schemata.Pattern

/-! ## Algorithm -/

/-- Some word, `k` times in a row, has at least `2 ^ k` derivations from a repetition. How often the
repetition itself goes round is no choice. -/
def Pathological (node : Node) : Prop :=
  ∃ word : List Char, ∀ k ≥ 1, ∃ derivations : List (List Nat), derivations.Nodup ∧
    2 ^ k ≤ derivations.length ∧
      ∀ choices ∈ derivations, ∃ count, Derives node (List.replicate k word).flatten (count :: choices)

/-- No word has two derivations from a repetition that differ in anything but how often the
repetition itself goes round. -/
def UnambiguousRounds (node : Node) : Prop :=
  ∀ word count count' choices choices', Derives node word (count :: choices) →
    Derives node word (count' :: choices') → choices = choices'

/-- All ways to choose one of two in each of some rounds. -/
def waysOf (first second : List Nat) : Nat → List (List Nat)
  | 0 => [[]]
  | k + 1 => (waysOf first second k).map (first ++ ·) ++ (waysOf first second k).map (second ++ ·)

variable {node body : Node} {word word' : List Char} {choices choices' first second : List Nat}
  {least count count' k : Nat} {rounds rounds' : List (List Char × List Nat)}

theorem unambiguousRounds_of_unambiguous (h : Unambiguous node) : UnambiguousRounds node :=
  fun word _ _ _ _ hfirst hsecond => (List.cons.inj (h word _ _ hfirst hsecond)).2

/-! ## Two ways over one word -/

theorem length_waysOf (first second : List Nat) (k : Nat) :
    (waysOf first second k).length = 2 ^ k := by
  induction k with
  | zero => rfl
  | succ k ih =>
    rw [waysOf, List.length_append, List.length_map, List.length_map, ih]
    omega

theorem nodup_waysOf (hne : first ≠ second) (hlength : first.length = second.length) (k : Nat) :
    (waysOf first second k).Nodup := by
  induction k with
  | zero => exact List.nodup_singleton []
  | succ k ih =>
    refine List.nodup_append.2 ⟨ih.map (List.append_right_injective first),
      ih.map (List.append_right_injective second), fun left hleft right hright heq => hne ?_⟩
    obtain ⟨others, -, rfl⟩ := List.mem_map.1 hleft
    obtain ⟨others', -, rfl⟩ := List.mem_map.1 hright
    exact (List.append_inj heq hlength).1

/-- Where there is no greatest count, more rounds can follow. -/
theorem derives_more_rounds (h : Derives (.repetition least none body) word (count :: choices))
    (h' : Derives (.repetition least none body) word' (count' :: choices')) :
    Derives (.repetition least none body) (word ++ word')
      ((count + count') :: (choices ++ choices')) := by
  obtain ⟨rounds, hrounds, hleast, -, rfl, heq⟩ := derives_repetition.1 h
  obtain ⟨rounds', hrounds', -, -, rfl, heq'⟩ := derives_repetition.1 h'
  obtain ⟨rfl, rfl⟩ := List.cons.inj heq
  obtain ⟨rfl, rfl⟩ := List.cons.inj heq'
  refine derives_repetition.2 ⟨rounds ++ rounds', List.forall_mem_append.2 ⟨hrounds, hrounds'⟩, ?_,
    fun count hcount => (nomatch hcount), List.flatMap_append.symm, ?_⟩
  · rw [List.length_append]
    exact Nat.le_add_right_of_le hleast
  · rw [List.length_append, List.flatMap_append]

/-- A way is one of the two over the first word, and a way over the others. -/
theorem mem_waysOf_succ : choices ∈ waysOf first second (k + 1) ↔
    ∃ others ∈ waysOf first second k, choices = first ++ others ∨ choices = second ++ others := by
  simp only [waysOf, List.mem_append, List.mem_map]
  constructor
  · rintro (⟨others, hothers, rfl⟩ | ⟨others, hothers, rfl⟩)
    · exact ⟨others, hothers, .inl rfl⟩
    · exact ⟨others, hothers, .inr rfl⟩
  · rintro ⟨others, hothers, rfl | rfl⟩
    · exact .inl ⟨others, hothers, rfl⟩
    · exact .inr ⟨others, hothers, rfl⟩

/-- Each way is one of going round over as many words in a row. -/
theorem derives_of_mem_waysOf (hk : 1 ≤ k)
    (hfirst : Derives (.repetition least none body) word (count :: first))
    (hsecond : Derives (.repetition least none body) word (count' :: second))
    (hmem : choices ∈ waysOf first second k) :
    ∃ count, Derives (.repetition least none body) (List.replicate k word).flatten
      (count :: choices) := by
  -- a least count may rule out that nothing goes round: the induction starts at one
  induction k, hk using Nat.le_induction generalizing choices with
  | base =>
    obtain ⟨others, hothers, hway⟩ := mem_waysOf_succ.1 hmem
    obtain rfl := List.mem_singleton.1 hothers
    rw [List.replicate_one, List.flatten_singleton]
    rw [List.append_nil, List.append_nil] at hway
    rcases hway with rfl | rfl
    · exact ⟨count, hfirst⟩
    · exact ⟨count', hsecond⟩
  | succ k _ ih =>
    obtain ⟨others, hothers, hway⟩ := mem_waysOf_succ.1 hmem
    obtain ⟨further, hrest⟩ := ih hothers
    rcases hway with rfl | rfl
    · exact ⟨count + further, derives_more_rounds hfirst hrest⟩
    · exact ⟨count' + further, derives_more_rounds hsecond hrest⟩

theorem pathological_of_two (hfirst : Derives (.repetition least none body) word (count :: first))
    (hsecond : Derives (.repetition least none body) word (count' :: second))
    (hne : first ≠ second) (hlength : first.length = second.length) :
    Pathological (.repetition least none body) :=
  ⟨word, fun k hk => ⟨waysOf first second k, nodup_waysOf hne hlength k,
    Nat.le_of_eq (length_waysOf first second k).symm,
    fun _ hmem => derives_of_mem_waysOf hk hfirst hsecond hmem⟩⟩

/-! ## Where derivations end -/

variable {rest rest' : List Nat}

/-- As many rounds with the same choices have as long a word, if this is so of each of them. -/
theorem rounds_cut
    (hcut : ∀ round ∈ rounds, ∀ {word choices rest rest'}, Derives body word choices →
      round.2 ++ rest = choices ++ rest' → round.2 = choices ∧ round.1.length = word.length)
    (hrounds' : ∀ round ∈ rounds', Derives body round.1 round.2)
    (hlength : rounds.length = rounds'.length)
    (heq : rounds.flatMap (·.2) ++ rest = rounds'.flatMap (·.2) ++ rest') :
    rounds.flatMap (·.2) = rounds'.flatMap (·.2) ∧
      (rounds.flatMap (·.1)).length = (rounds'.flatMap (·.1)).length := by
  induction rounds generalizing rounds' with
  | nil =>
    obtain rfl := List.eq_nil_of_length_eq_zero hlength.symm
    exact ⟨rfl, rfl⟩
  | cons round rounds ih =>
    cases rounds' with
    | nil => cases hlength
    | cons round' rounds' =>
      obtain ⟨hround, hcut⟩ := List.forall_mem_cons.1 hcut
      obtain ⟨hround', hrounds'⟩ := List.forall_mem_cons.1 hrounds'
      simp only [List.flatMap_cons, List.append_assoc, List.length_append] at heq ⊢
      obtain ⟨hchoices, hword⟩ := hround hround' heq
      rw [hchoices] at heq
      obtain ⟨hothers, hwords⟩ := ih hcut hrounds' (Nat.succ.inj hlength)
        (List.append_cancel_left heq)
      exact ⟨by rw [hchoices, hothers], by rw [hword, hwords]⟩

/-- Choices tell where a derivation ends, and how long its word is. -/
theorem choices_cut (h : Derives node word choices) (h' : Derives node word' choices')
    (heq : choices ++ rest = choices' ++ rest') :
    choices = choices' ∧ word.length = word'.length := by
  induction h generalizing word' choices' rest rest' with
  | empty =>
    cases h'
    exact ⟨rfl, rfl⟩
  | look kind =>
    cases h'
    exact ⟨rfl, rfl⟩
  | one _ =>
    cases h'
    exact ⟨rfl, rfl⟩
  | capture _ ih => exact ih (derives_capture.1 h') heq
  | alternation i hbranch _ ih =>
    obtain ⟨j, branch, others, hbranch', hword', rfl⟩ := derives_alternation.1 h'
    obtain ⟨rfl, hinner⟩ := List.cons.inj heq
    rw [hbranch] at hbranch'
    cases hbranch'
    obtain ⟨rfl, hlength⟩ := ih hword' hinner
    exact ⟨rfl, hlength⟩
  | nil =>
    obtain ⟨rfl, rfl⟩ := derives_nil.1 h'
    exact ⟨rfl, rfl⟩
  | cons _ _ ihpart ihrest =>
    obtain ⟨front, back, first, others, hfront, hback, rfl, rfl⟩ := derives_cons.1 h'
    rw [List.append_assoc, List.append_assoc] at heq
    obtain ⟨rfl, hlength⟩ := ihpart hfront heq
    obtain ⟨rfl, hlength'⟩ := ihrest hback (List.append_cancel_left heq)
    exact ⟨rfl, by rw [List.length_append, List.length_append, hlength, hlength']⟩
  | repetition rounds _ _ _ ih =>
    obtain ⟨rounds', hrounds', -, -, rfl, rfl⟩ := derives_repetition.1 h'
    obtain ⟨hcount, hinner⟩ := List.cons.inj heq
    obtain ⟨hchoices, hlength⟩ := rounds_cut ih hrounds' hcount hinner
    exact ⟨by rw [hcount, hchoices], hlength⟩

/-! ## Choices over the empty word -/

/-- Where one way over a word is the start of another, the other one has a round of nothing in which
something is chosen: up to there the rounds are the same. -/
theorem exists_empty_round (hrounds : ∀ round ∈ rounds, Derives body round.1 round.2)
    (hrounds' : ∀ round ∈ rounds', Derives body round.1 round.2)
    (hword : rounds.flatMap (·.1) = rounds'.flatMap (·.1))
    (hchoices : rounds.flatMap (·.2) ++ rest = rounds'.flatMap (·.2)) (hrest : rest ≠ []) :
    ∃ choices, choices ≠ [] ∧ Derives body [] choices := by
  induction rounds generalizing rounds' with
  | nil =>
    obtain ⟨choice, hchoice⟩ := List.exists_mem_of_ne_nil rest hrest
    rw [List.flatMap_nil, List.nil_append] at hchoices
    rw [hchoices] at hchoice
    obtain ⟨round, hround, hmem⟩ := List.mem_flatMap.1 hchoice
    have hnil := List.flatMap_eq_nil_iff.1 hword.symm round hround
    have hderives := hrounds' round hround
    rw [hnil] at hderives
    exact ⟨round.2, List.ne_nil_of_mem hmem, hderives⟩
  | cons round rounds ih =>
    cases rounds' with
    | nil => exact absurd (List.append_eq_nil_iff.1 hchoices).2 hrest
    | cons round' rounds' =>
      obtain ⟨hround, hrounds⟩ := List.forall_mem_cons.1 hrounds
      obtain ⟨hround', hrounds'⟩ := List.forall_mem_cons.1 hrounds'
      simp only [List.flatMap_cons, List.append_assoc] at hword hchoices
      obtain ⟨hfirst, hlength⟩ := choices_cut hround hround' hchoices
      rw [hfirst] at hchoices
      exact ih hrounds hrounds' (List.append_inj hword hlength).2 (List.append_cancel_left hchoices)

/-- Rounds of nothing in which something is chosen can be added in any number. -/
theorem pathological_of_empty (h : Derives body [] choices) (hne : choices ≠ []) :
    Pathological (.repetition least none body) := by
  have hlength : 0 < choices.length := List.length_pos_of_ne_nil hne
  have hderives : ∀ extra, Derives (.repetition least none body) []
      ((least + extra) :: (List.replicate (least + extra) choices).flatten) := by
    intro extra
    have hrounds : ∀ round ∈ List.replicate (least + extra) (([] : List Char), choices),
        Derives body round.1 round.2 := by
      intro round hround
      rwa [List.eq_of_mem_replicate hround]
    refine derives_repetition.2 ⟨_, hrounds, ?_, fun count hcount => (nomatch hcount), ?_, ?_⟩
    · rw [List.length_replicate]
      exact Nat.le_add_right least extra
    · simp
    · rw [List.length_replicate, List.flatMap_def, List.map_replicate]
  refine ⟨[], fun k _ => ⟨(List.range (2 ^ k)).map fun extra =>
    (List.replicate (least + extra) choices).flatten, ?_, by simp, fun way hway => ?_⟩⟩
  · refine List.nodup_range.map fun extra extra' heq => ?_
    have hlengths := congrArg List.length heq
    simp only [List.length_flatten, List.map_replicate, List.sum_replicate_nat] at hlengths
    have hcounts := Nat.eq_of_mul_eq_mul_right hlength hlengths
    omega
  · obtain ⟨extra, -, rfl⟩ := List.mem_map.1 hway
    refine ⟨least + extra, ?_⟩
    rw [List.flatten_replicate_nil]
    exact hderives extra

/-- One way over a word, and another that only adds choices to it. -/
theorem pathological_of_append
    (hfirst : Derives (.repetition least none body) word (count :: first))
    (hsecond : Derives (.repetition least none body) word (count' :: (first ++ rest)))
    (hrest : rest ≠ []) : Pathological (.repetition least none body) := by
  obtain ⟨rounds, hrounds, -, -, rfl, heq⟩ := derives_repetition.1 hfirst
  obtain ⟨rounds', hrounds', -, -, hword, heq'⟩ := derives_repetition.1 hsecond
  obtain ⟨rfl, rfl⟩ := List.cons.inj heq
  obtain ⟨rfl, hchoices⟩ := List.cons.inj heq'
  obtain ⟨choices, hchosen, hempty⟩ := exists_empty_round hrounds hrounds' hword hchoices hrest
  exact pathological_of_empty hempty hchosen

/-! ## Top theorem -/

/-- Two ways over a word are enough. -/
theorem pathological_of_ne (hfirst : Derives (.repetition least none body) word (count :: first))
    (hsecond : Derives (.repetition least none body) word (count' :: second))
    (hne : first ≠ second) : Pathological (.repetition least none body) := by
  by_cases hcommute : first ++ second = second ++ first
  · rcases List.append_eq_append_iff.1 hcommute with ⟨more, rfl, -⟩ | ⟨more, rfl, -⟩
    · exact pathological_of_append hfirst hsecond fun hnil => hne (by simp [hnil])
    · exact pathological_of_append hsecond hfirst fun hnil => hne (by simp [hnil])
  · exact pathological_of_two (derives_more_rounds hfirst hsecond)
      (derives_more_rounds hsecond hfirst) hcommute (by simp [Nat.add_comm])

theorem not_pathological_of_unambiguousRounds (h : UnambiguousRounds node) :
    ¬ Pathological node := by
  rintro ⟨word, hpowers⟩
  obtain ⟨derivations, hnodup, hlength, hderives⟩ := hpowers 1 (Nat.le_refl 1)
  match derivations, hlength with
  | [], hlength => exact absurd hlength (by decide)
  | [_], hlength => exact absurd hlength (by simp)
  | first :: second :: _, _ =>
    obtain ⟨_, hfirst⟩ := hderives first List.mem_cons_self
    obtain ⟨_, hsecond⟩ := hderives second (List.mem_cons_of_mem first List.mem_cons_self)
    have heq := h _ _ _ _ _ hfirst hsecond
    exact (List.nodup_cons.1 hnodup).1 (heq ▸ List.mem_cons_self)

/-- A repetition without a greatest count is pathological unless no word has two ways. -/
theorem not_pathological_iff :
    ¬ Pathological (.repetition least none body) ↔
      UnambiguousRounds (.repetition least none body) := by
  refine ⟨fun h word count count' choices choices' hfirst hsecond => ?_,
    not_pathological_of_unambiguousRounds⟩
  by_contra hne
  exact h (pathological_of_ne hfirst hsecond hne)

end Schemata.Pattern
