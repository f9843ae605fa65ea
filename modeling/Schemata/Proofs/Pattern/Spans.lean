import Mathlib.Data.Nat.Bitwise
import Schemata.Pattern.Matching

/-!
# What a search finds

A node spans the stretch of a text from one position to another; what it is found in is a text with
some stretch that it spans. Matching takes whole sets of positions along, each repetition at most one
round more than the text is long. Both come to the same: among more rounds than that, one spans no
character, and such a round can be left out or done again.

    a chain of more steps than positions → one of any greater length           (chain_recount)
    chains between the two counts ↔ chains of the rounds gone            (exists_chain_iff_rounds)
    advancing takes sets of positions along what a node spans                  (follows_advance)
    a search succeeds ↔ the node is found                               (matchesIn_iff_foundIn)

The counts of each repetition have to be in order, as they are in whatever was read.
-/

namespace Schemata.Pattern

open Unicode (CodeRanges)

/-! ## Algorithm -/

/-- So many steps of a relation in a row. -/
def Chain (step : Nat → Nat → Prop) : Nat → Nat → Nat → Prop
  | 0, i, j => i = j
  | n + 1, i, j => ∃ k, step i k ∧ Chain step n k j

/-- A node spans the stretch of a text from one position to another. -/
def Node.Spans (text : List Char) : Node → Nat → Nat → Prop
  | .empty, i, j => i = j
  | .one set, i, j => (∃ c, text[i]? = some c ∧ CodeRanges.contains set c.toNat = true) ∧ i + 1 = j
  | .look kind, i, j => kind.holds (text.take i).getLast? text[i]? = true ∧ i = j
  | .repetition least most body, i, j =>
    ∃ count, least ≤ count ∧ (∀ limit ∈ most, count ≤ limit) ∧ Chain (body.Spans text) count i j
  | .capture body, i, j => body.Spans text i j
  | .alternation branches, i, j => anySpans text branches i j
  | .concat parts, i, j => allSpan text parts i j
where
  /-- One of the nodes spans it. -/
  anySpans (text : List Char) : List Node → Nat → Nat → Prop
    | [], _, _ => False
    | branch :: branches, i, j => branch.Spans text i j ∨ anySpans text branches i j
  /-- The nodes span it one after the other. -/
  allSpan (text : List Char) : List Node → Nat → Nat → Prop
    | [], i, j => i = j
    | part :: parts, i, j => ∃ k, part.Spans text i k ∧ allSpan text parts k j

/-- A node spans some stretch of a text. -/
def Node.FoundIn (node : Node) (text : List Char) : Prop :=
  ∃ i j, i ≤ text.length ∧ node.Spans text i j

/-- Two counts in order. -/
def CountsOrdered (least : Nat) (most : Option Nat) : Prop := ∀ limit ∈ most, least ≤ limit

/-- The counts of every repetition in a node are in order. -/
def Node.Ordered : Node → Prop
  | .repetition least most body => CountsOrdered least most ∧ body.Ordered
  | .capture body => body.Ordered
  | .alternation branches => allOrdered branches
  | .concat parts => allOrdered parts
  | _ => True
where
  /-- Those of a list of nodes are. -/
  allOrdered : List Node → Prop
    | [] => True
    | node :: nodes => node.Ordered ∧ allOrdered nodes

/-- How many rounds beyond the forced ones may be gone at most. -/
def optionalRounds (bound least : Nat) (most : Option Nat) : Nat :=
  match most with
  | some most => min (most - least) bound
  | none => bound

/-- A set of positions of a text of some length. -/
def Positions.Within (length : Nat) (positions : Positions) : Prop :=
  ∀ i, positions.testBit i = true → i ≤ length

/-- A function takes sets of positions of a text along a relation. -/
def Follows (length : Nat) (advance : Positions → Positions) (relation : Nat → Nat → Prop) : Prop :=
  ∀ positions, Positions.Within length positions → ∀ j,
    (advance positions).testBit j = true ↔ ∃ i, positions.testBit i = true ∧ relation i j

/-- A relation goes forward, and not beyond the end of a text. -/
def Forward (length : Nat) (relation : Nat → Nat → Prop) : Prop :=
  ∀ i j, relation i j → i ≤ j ∧ (i ≤ length → j ≤ length)

variable {length i j k n m : Nat} {step relation other : Nat → Nat → Prop}
  {advance next : Positions → Positions} {positions : Positions} {text : List Char}

/-! ## Going forward -/

theorem forward_eq (length : Nat) : Forward length fun i j => i = j := by
  rintro i j rfl
  exact ⟨Nat.le_refl i, id⟩

theorem Forward.comp (h : Forward length relation) (hnext : Forward length other) :
    Forward length fun i j => ∃ k, relation i k ∧ other k j := by
  rintro i j ⟨k, hrelation, hother⟩
  obtain ⟨hik, hk⟩ := h i k hrelation
  obtain ⟨hkj, hj⟩ := hnext k j hother
  exact ⟨Nat.le_trans hik hkj, fun hi => hj (hk hi)⟩

theorem Forward.or (h : Forward length relation) (hother : Forward length other) :
    Forward length fun i j => relation i j ∨ other i j := by
  rintro i j (hrelation | hrelation)
  · exact h i j hrelation
  · exact hother i j hrelation

/-! ## Chains -/

theorem chain_add : Chain step (m + n) i j ↔ ∃ k, Chain step m i k ∧ Chain step n k j := by
  induction m generalizing i with
  | zero => simp [Chain]
  | succ m ih =>
    rw [Nat.add_right_comm]
    constructor
    · rintro ⟨k, hstep, hchain⟩
      obtain ⟨middle, hfront, hback⟩ := ih.1 hchain
      exact ⟨middle, ⟨k, hstep, hfront⟩, hback⟩
    · rintro ⟨middle, ⟨k, hstep, hfront⟩, hback⟩
      exact ⟨k, hstep, ih.2 ⟨middle, hfront, hback⟩⟩

/-- A step that leads nowhere can be done again and again. -/
theorem chain_idle (h : step i i) (n : Nat) : Chain step n i i := by
  induction n with
  | zero => rfl
  | succ n ih => exact ⟨i, h, ih⟩

theorem Forward.chain (h : Forward length step) (n : Nat) : Forward length (Chain step n) := by
  induction n with
  | zero => exact forward_eq length
  | succ n ih => exact h.comp ih

/-- The steps that lead nowhere can be left out. -/
theorem exists_short_chain (h : Forward length step) (hchain : Chain step n i j) :
    ∃ m, m ≤ j - i ∧ Chain step m i j := by
  induction n generalizing i with
  | zero => exact ⟨0, Nat.zero_le _, hchain⟩
  | succ n ih =>
    obtain ⟨k, hstep, hrest⟩ := hchain
    obtain ⟨m, hm, hshort⟩ := ih hrest
    have hik := (h i k hstep).1
    have hkj := (h.chain n k j hrest).1
    by_cases hidle : i = k
    · exact ⟨m, by omega, by rwa [hidle]⟩
    · exact ⟨m + 1, by omega, k, hstep, hshort⟩

/-- Among more steps than there are positions one leads nowhere. -/
theorem chain_recount (h : Forward length step) (hchain : Chain step n i j) (hmany : j - i < n)
    (hm : j - i ≤ m) : Chain step m i j := by
  induction n generalizing i m with
  | zero => omega
  | succ n ih =>
    obtain ⟨k, hstep, hrest⟩ := hchain
    have hik := (h i k hstep).1
    have hkj := (h.chain n k j hrest).1
    by_cases hidle : i = k
    · subst hidle
      obtain ⟨short, hshort, hfront⟩ := exists_short_chain h hrest
      have hpad : Chain step ((m - short) + short) i j :=
        chain_add.2 ⟨i, chain_idle hstep _, hfront⟩
      rwa [Nat.sub_add_cancel (by omega)] at hpad
    · obtain ⟨m, rfl⟩ : ∃ fewer, m = fewer + 1 := ⟨m - 1, by omega⟩
      exact ⟨k, hstep, ih hrest (by omega) (by omega)⟩

theorem le_optionalRounds {least bound : Nat} {most : Option Nat} (hn : n ≤ bound)
    (hmost : ∀ limit ∈ most, n ≤ limit - least) : n ≤ optionalRounds bound least most := by
  cases most with
  | none => exact hn
  | some limit => exact Nat.le_min.2 ⟨hmost limit rfl, hn⟩

theorem optionalRounds_le {least bound : Nat} {most : Option Nat}
    (hn : n ≤ optionalRounds bound least most) : ∀ limit ∈ most, n ≤ limit - least := by
  rintro limit hlimit
  cases hlimit
  exact (Nat.le_min.1 hn).1

/-- The rounds that matching goes are enough. -/
theorem exists_chain_iff_rounds (h : Forward length step) {least : Nat} {most : Option Nat}
    (hordered : CountsOrdered least most) (hi : i ≤ length) :
    (∃ count, least ≤ count ∧ (∀ limit ∈ most, count ≤ limit) ∧ Chain step count i j) ↔
      ∃ more, more ≤ optionalRounds (length + 1) least most ∧
        Chain step (min least (length + 1) + more) i j := by
  constructor
  · rintro ⟨count, hleast, hmost, hchain⟩
    obtain ⟨hij, hj⟩ := h.chain count i j hchain
    have hspan : j - i ≤ length := Nat.le_trans (Nat.sub_le j i) (hj hi)
    by_cases hfew : count ≤ j - i
    · refine ⟨count - least, le_optionalRounds (by omega) fun limit hlimit => ?_, ?_⟩
      · exact Nat.sub_le_sub_right (hmost limit hlimit) least
      · rwa [Nat.min_eq_left (by omega), Nat.add_sub_cancel' hleast]
    · -- one round spans no character, so that any number of rounds will do
      refine ⟨j - i - least, le_optionalRounds (by omega) fun limit hlimit => ?_, ?_⟩
      · have hcount := hmost limit hlimit
        omega
      · exact chain_recount h hchain (by omega) (by omega)
  · rintro ⟨more, hmore, hchain⟩
    have hlimits := optionalRounds_le hmore
    by_cases hsmall : least ≤ length + 1
    · rw [Nat.min_eq_left hsmall] at hchain
      refine ⟨least + more, Nat.le_add_right _ _, fun limit hlimit => ?_, hchain⟩
      have hcounts := hordered limit hlimit
      have hlimit := hlimits limit hlimit
      omega
    · obtain ⟨hij, hj⟩ := h.chain _ i j hchain
      have hspan : j - i ≤ length := Nat.le_trans (Nat.sub_le j i) (hj hi)
      exact ⟨least, Nat.le_refl least, hordered, chain_recount h hchain (by omega) (by omega)⟩

/-! ## Sets of positions -/

theorem testBit_ofList (answers : List Bool) (i : Nat) :
    (Positions.ofList answers).testBit i = answers[i]?.getD false := by
  induction answers generalizing i with
  | nil => simp [Positions.ofList]
  | cons answer answers ih =>
    have hbit : Positions.ofList (answer :: answers) = Nat.bit answer (Positions.ofList answers) := by
      rw [Positions.ofList, Nat.bit_val, Nat.add_comm]
      cases answer <;> rfl
    rw [hbit]
    cases i with
    | zero => simp
    | succ i => rw [Nat.testBit_bit_succ, ih, List.getElem?_cons_succ]

theorem testBit_all : (Positions.all length).testBit i = true ↔ i ≤ length := by
  have hall : Positions.all length = 2 ^ (length + 1) - 1 := rfl
  rw [hall, Nat.testBit_two_pow_sub_one, decide_eq_true_iff, Nat.lt_succ_iff]

theorem within_all : Positions.Within length (Positions.all length) :=
  fun _ => testBit_all.1

theorem ne_zero_iff_exists_testBit : positions ≠ 0 ↔ ∃ i, positions.testBit i = true :=
  ⟨Nat.exists_testBit_of_ne_zero, fun ⟨i, hi⟩ h => by simp [h] at hi⟩

/-- A condition is tried at every position, between the characters around it. -/
theorem along_getElem? (look : Look) (before : Option Char) (text : List Char) (i : Nat) :
    (look.along before text)[i]? =
      if i ≤ text.length then
        some (look.holds ((text.take i).getLast?.or before) text[i]?)
      else none := by
  induction text generalizing before i with
  | nil =>
    cases i with
    | zero => rfl
    | succ i => rfl
  | cons c rest ih =>
    cases i with
    | zero => simp [Look.along]
    | succ i =>
      rw [Look.along, List.getElem?_cons_succ, ih]
      have hbefore : (rest.take i).getLast?.or (some c) =
          ((c :: rest).take (i + 1)).getLast?.or before := by
        rw [List.take_succ_cons, List.getLast?_cons]
        cases (rest.take i).getLast? <;> rfl
      rw [hbefore, List.getElem?_cons_succ]
      simp

/-! ## Following a relation -/

theorem Follows.within (h : Follows length advance relation) (hforward : Forward length relation)
    (hwithin : positions.Within length) : (advance positions).Within length := by
  intro j hj
  obtain ⟨i, hi, hrelation⟩ := (h positions hwithin j).1 hj
  exact (hforward i j hrelation).2 (hwithin i hi)

/-- One after the other. -/
theorem Follows.comp (h : Follows length advance relation) (hforward : Forward length relation)
    (hnext : Follows length next other) :
    Follows length (fun positions => next (advance positions))
      fun i j => ∃ k, relation i k ∧ other k j := by
  intro positions hwithin j
  rw [hnext _ (h.within hforward hwithin)]
  constructor
  · rintro ⟨k, hk, hother⟩
    obtain ⟨i, hi, hrelation⟩ := (h positions hwithin k).1 hk
    exact ⟨i, hi, k, hrelation, hother⟩
  · rintro ⟨i, hi, k, hrelation, hother⟩
    exact ⟨k, (h positions hwithin k).2 ⟨i, hi, hrelation⟩, hother⟩

/-- Side by side. -/
theorem Follows.or (h : Follows length advance relation) (hnext : Follows length next other) :
    Follows length (fun positions => advance positions ||| next positions)
      fun i j => relation i j ∨ other i j := by
  intro positions hwithin j
  rw [Nat.testBit_or, Bool.or_eq_true, h positions hwithin, hnext positions hwithin]
  constructor
  · rintro (⟨i, hi, hrelation⟩ | ⟨i, hi, hother⟩)
    · exact ⟨i, hi, Or.inl hrelation⟩
    · exact ⟨i, hi, Or.inr hother⟩
  · rintro ⟨i, hi, hrelation | hother⟩
    · exact Or.inl ⟨i, hi, hrelation⟩
    · exact Or.inr ⟨i, hi, hother⟩

theorem follows_id : Follows length id fun i j => i = j := by
  intro positions _ j
  constructor
  · intro hj
    exact ⟨j, hj, rfl⟩
  · rintro ⟨i, hi, rfl⟩
    exact hi

theorem Follows.congr (h : Follows length advance relation)
    (hiff : ∀ i j, i ≤ length → (relation i j ↔ other i j)) : Follows length advance other := by
  intro positions hwithin j
  rw [h positions hwithin]
  exact exists_congr fun i => and_congr_right fun hi => hiff i j (hwithin i hi)

/-- Rounds that are stopped early because nothing changes any more come to the same. -/
theorem rounds_eq_iterate (advance : Positions → Positions) (n : Nat) :
    rounds advance n = advance^[n] := by
  funext positions
  induction n generalizing positions with
  | zero => rfl
  | succ n ih =>
    rw [Function.iterate_succ_apply, rounds]
    split
    · next hsame =>
      rw [hsame]
      exact (Function.iterate_fixed hsame n).symm
    · exact ih _

theorem Follows.rounds (h : Follows length advance step) (hforward : Forward length step) (n : Nat) :
    Follows length (rounds advance n) (Chain step n) := by
  rw [rounds_eq_iterate]
  induction n with
  | zero => exact follows_id
  | succ n ih => exact h.comp hforward ih

/-- Steps that may be left out are gone at most so many times. -/
theorem chain_or_eq : Chain (fun i j => i = j ∨ step i j) n i j ↔ ∃ m ≤ n, Chain step m i j := by
  induction n generalizing i with
  | zero => simp [Chain]
  | succ n ih =>
    constructor
    · rintro ⟨k, rfl | hstep, hchain⟩
      · obtain ⟨m, hm, hchain⟩ := ih.1 hchain
        exact ⟨m, by omega, hchain⟩
      · obtain ⟨m, hm, hchain⟩ := ih.1 hchain
        exact ⟨m + 1, by omega, k, hstep, hchain⟩
    · rintro ⟨m, hm, hchain⟩
      cases m with
      | zero =>
        cases hchain
        exact ⟨_, Or.inl rfl, ih.2 ⟨0, Nat.zero_le n, rfl⟩⟩
      | succ m =>
        obtain ⟨k, hstep, hrest⟩ := hchain
        exact ⟨k, Or.inr hstep, ih.2 ⟨m, by omega, hrest⟩⟩

/-! ## Nodes -/

mutual
/-- What a node spans lies within the text. -/
theorem forward_spans (text : List Char) : ∀ node : Node, Forward text.length (node.Spans text)
  | .empty => forward_eq text.length
  | .one set => by
    rintro i j ⟨⟨c, hc, -⟩, rfl⟩
    have hi := (List.getElem?_eq_some_iff.1 hc).1
    exact ⟨Nat.le_succ i, fun _ => hi⟩
  | .look kind => by
    rintro i j ⟨-, rfl⟩
    exact ⟨Nat.le_refl i, id⟩
  | .repetition least most body => by
    rintro i j ⟨count, -, -, hchain⟩
    exact (forward_spans text body).chain count i j hchain
  | .capture body => forward_spans text body
  | .alternation branches => forward_anySpans text branches
  | .concat parts => forward_allSpan text parts

theorem forward_anySpans (text : List Char) :
    ∀ nodes : List Node, Forward text.length (Node.Spans.anySpans text nodes)
  | [] => fun _ _ h => nomatch h
  | node :: nodes => (forward_spans text node).or (forward_anySpans text nodes)

theorem forward_allSpan (text : List Char) :
    ∀ nodes : List Node, Forward text.length (Node.Spans.allSpan text nodes)
  | [] => forward_eq text.length
  | node :: nodes => (forward_spans text node).comp (forward_allSpan text nodes)
end

theorem follows_one (text : List Char) (set : CodeRanges) :
    Follows text.length (((Node.one set).place text).advance (text.length + 1))
      ((Node.one set).Spans text) := by
  intro positions _ j
  have hplaces : ∀ i, (Positions.ofList
      (text.map fun c => CodeRanges.contains set c.toNat)).testBit i = true ↔
        ∃ c, text[i]? = some c ∧ CodeRanges.contains set c.toNat = true := by
    intro i
    rw [testBit_ofList, List.getElem?_map]
    cases text[i]? with
    | none => simp
    | some c => simp
  show ((positions &&& _) <<< 1).testBit j = true ↔ _
  rw [Nat.testBit_shiftLeft, Bool.and_eq_true, Nat.testBit_and, Bool.and_eq_true, hplaces,
    decide_eq_true_iff]
  constructor
  · rintro ⟨hj, hpositions, hc⟩
    exact ⟨j - 1, hpositions, hc, Nat.sub_add_cancel hj⟩
  · rintro ⟨i, hi, hc, rfl⟩
    exact ⟨Nat.le_add_left 1 i, hi, hc⟩

theorem follows_look (text : List Char) (kind : Look) :
    Follows text.length (((Node.look kind).place text).advance (text.length + 1))
      ((Node.look kind).Spans text) := by
  intro positions hwithin j
  show (positions &&& _).testBit j = true ↔ _
  rw [Nat.testBit_and, Bool.and_eq_true, testBit_ofList, along_getElem?]
  constructor
  · rintro ⟨hj, hholds⟩
    rw [if_pos (hwithin j hj), Option.or_none] at hholds
    exact ⟨j, hj, hholds, rfl⟩
  · rintro ⟨i, hi, hholds, rfl⟩
    rw [if_pos (hwithin i hi), Option.or_none]
    exact ⟨hi, hholds⟩

/-- The rounds of a repetition span what its chains do. -/
theorem follows_repetition {body : Node} {least : Nat} {most : Option Nat}
    (hordered : CountsOrdered least most)
    (hbody : Follows text.length ((body.place text).advance (text.length + 1)) (body.Spans text)) :
    Follows text.length (((Node.repetition least most body).place text).advance (text.length + 1))
      ((Node.repetition least most body).Spans text) := by
  have hforward := forward_spans text body
  have hforced := hbody.rounds hforward (min least (text.length + 1))
  have hstay := (forward_eq text.length).or hforward
  have hoptional := (follows_id.or hbody).rounds hstay (optionalRounds (text.length + 1) least most)
  refine (hforced.comp (hforward.chain _) hoptional).congr fun i j hi => ?_
  refine Iff.trans ?_ (exists_chain_iff_rounds hforward hordered hi).symm
  constructor
  · rintro ⟨k, hfront, hback⟩
    obtain ⟨more, hmore, hback⟩ := chain_or_eq.1 hback
    exact ⟨more, hmore, chain_add.2 ⟨k, hfront, hback⟩⟩
  · rintro ⟨more, hmore, hchain⟩
    obtain ⟨k, hfront, hback⟩ := chain_add.1 hchain
    exact ⟨k, hfront, chain_or_eq.2 ⟨more, hmore, hback⟩⟩

mutual
/-- Advancing takes sets of positions along what a node spans. -/
theorem follows_advance (text : List Char) : ∀ node : Node, node.Ordered →
    Follows text.length ((node.place text).advance (text.length + 1)) (node.Spans text)
  | .empty, _ => follows_id
  | .one set, _ => follows_one text set
  | .look kind, _ => follows_look text kind
  | .repetition _ _ body, ⟨hcounts, hbody⟩ =>
    follows_repetition hcounts (follows_advance text body hbody)
  | .capture body, hbody => follows_advance text body hbody
  | .alternation branches, hbranches => follows_advanceAny text branches hbranches
  | .concat parts, hparts => follows_advanceAll text parts hparts

theorem follows_advanceAny (text : List Char) : ∀ nodes : List Node, Node.Ordered.allOrdered nodes →
    Follows text.length
      (Placed.advance.advanceAny (text.length + 1) (Node.place.placeAll text nodes))
      (Node.Spans.anySpans text nodes)
  | [], _ => by
    intro positions _ j
    simp [Node.place.placeAll, Placed.advance.advanceAny, Node.Spans.anySpans]
  | node :: nodes, ⟨hnode, hnodes⟩ =>
    (follows_advance text node hnode).or (follows_advanceAny text nodes hnodes)

theorem follows_advanceAll (text : List Char) : ∀ nodes : List Node, Node.Ordered.allOrdered nodes →
    Follows text.length
      (Placed.advance.advanceAll (text.length + 1) (Node.place.placeAll text nodes))
      (Node.Spans.allSpan text nodes)
  | [], _ => follows_id
  | node :: nodes, ⟨hnode, hnodes⟩ =>
    (follows_advance text node hnode).comp (forward_spans text node)
      (follows_advanceAll text nodes hnodes)
end

/-- A search succeeds exactly if the node is found. -/
theorem matchesIn_iff_foundIn {node : Node} (h : node.Ordered) (text : String) :
    node.matchesIn text = true ↔ node.FoundIn text.toList := by
  unfold Node.matchesIn
  rw [decide_eq_true_iff, ne_zero_iff_exists_testBit]
  constructor
  · rintro ⟨j, hj⟩
    obtain ⟨i, hi, hspans⟩ := (follows_advance text.toList node h _ within_all j).1 hj
    exact ⟨i, j, testBit_all.1 hi, hspans⟩
  · rintro ⟨i, j, hi, hspans⟩
    exact ⟨j, (follows_advance text.toList node h _ within_all j).2 ⟨i, testBit_all.2 hi, hspans⟩⟩

end Schemata.Pattern
