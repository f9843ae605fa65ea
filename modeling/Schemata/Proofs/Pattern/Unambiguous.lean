import Schemata.Proofs.Pattern.Derivation

/-!
# Nodes that the next character decides

Where the next character decides whether a repetition goes round once more, and where one part of a
row ends and the next one begins, and no match of a branch starts a match of another, a word has one
derivation at most. Such a node goes on, behind a match, only by another round of a repetition in it.

Two rules on a repeated body take the place of some of this: no repetition in it that may go round a
varying number of times begins like it, and if it is a choice, its branches are apart. They make the
end of a round decided, and the choice.

    determined node → one derivation of each word at most              (unambiguous_of_determined)
    determined node goes on with c → a varying repetition in it begins with c      (varying_of_goesOn)
    the two rules, and decided where they do not look → determined             (determined_of_rules)
-/

namespace Schemata.Pattern

/-! ## Algorithm -/

/-- The bodies of the repetitions in a node that may go round a varying number of times. -/
def Node.varyingBodies : Node → List Node
  | .repetition least most body =>
    if most = some least then body.varyingBodies else body :: body.varyingBodies
  | .capture body => body.varyingBodies
  | .alternation branches => ofAll branches
  | .concat parts => ofAll parts
  | _ => []
where
  /-- The bodies in a list of nodes. -/
  ofAll : List Node → List Node
    | [] => []
    | node :: nodes => node.varyingBodies ++ ofAll nodes

/-- The branches of a node that is a choice, perhaps remembered. -/
def Node.branches : Node → List Node
  | .capture body => body.branches
  | .alternation branches => branches
  | _ => []

def Node.repetitions : Node → List Node
  | .repetition least most body => .repetition least most body :: body.repetitions
  | .capture body => body.repetitions
  | .alternation branches => ofAll branches
  | .concat parts => ofAll parts
  | _ => []
where
  /-- The repetitions in a list of nodes. -/
  ofAll : List Node → List Node
    | [] => []
    | node :: nodes => node.repetitions ++ ofAll nodes

/-- None of the branches matches the empty word, and no two begin with the same character. -/
def Apart (branches : List Node) : Prop :=
  (∀ branch ∈ branches, ¬ Matches branch []) ∧
    branches.Pairwise fun first second => ∀ c, Begins first c → ¬ Begins second c

/-- No match of a branch is another one's, or the start of it. -/
def PrefixFree (branches : List Node) : Prop :=
  branches.Pairwise fun first second => ∀ word rest,
    (Matches first word → ¬ Matches second (word ++ rest)) ∧
      (Matches second word → ¬ Matches first (word ++ rest))

/-- No part of a row goes on with a character that the rest of the row begins with. -/
def Sequential : List Node → Prop
  | [] => True
  | part :: parts => (∀ c, GoesOn part c → ¬ Begins (.concat parts) c) ∧ Sequential parts

mutual
/-- The next character decides at each step, and a match its branch, except where the two rules look:
at the end of a round of a repetition with one of some greatest counts, and at the choice that is its
body. Whether the node is such a body is the second argument. -/
def Decided (ruled : Option Nat → Bool) (isBody : Bool) : Node → Prop
  | .empty => True
  | .one _ => True
  | .look _ => True
  | .repetition _ most body =>
    ¬ Matches body [] ∧ (ruled most = false → ∀ c, GoesOn body c → ¬ Begins body c) ∧
      Decided ruled (ruled most) body
  | .capture body => Decided ruled isBody body
  | .alternation branches => (isBody = false → PrefixFree branches) ∧ DecidedAll ruled branches
  | .concat parts => Sequential parts ∧ DecidedAll ruled parts

/-- Each of several nodes is decided. -/
def DecidedAll (ruled : Option Nat → Bool) : List Node → Prop
  | [] => True
  | node :: nodes => Decided ruled false node ∧ DecidedAll ruled nodes
end

/-- The next character decides at each step, and a match its branch. -/
def Determined (node : Node) : Prop := Decided (fun _ => false) false node

/-- The two rules on the body of a repetition. -/
structure Rules (body : Node) : Prop where
  nested : ∀ inner ∈ body.varyingBodies, ∀ c, Begins inner c → ¬ Begins body c
  branches : Apart body.branches

variable {node body : Node} {nodes branches parts : List Node} {c : Char}

/-! ## One derivation -/

theorem apart_nil : Apart [] := ⟨List.forall_mem_nil _, .nil⟩

/-- Branches that are apart have no match in common: neither of the two is empty, and their first
characters differ. -/
theorem Apart.prefixFree (h : Apart branches) : PrefixFree branches := by
  have hnone : ∀ {first second : Node} {word rest : List Char}, first ∈ branches →
      (∀ c, Begins first c → ¬ Begins second c) → Matches first word →
        ¬ Matches second (word ++ rest) := by
    intro first second word rest hmem hbegins hfirst hsecond
    cases word with
    | nil => exact h.1 first hmem hfirst
    | cons c word => exact hbegins c ⟨word, hfirst⟩ ⟨word ++ rest, hsecond⟩
  refine h.2.imp_of_mem fun hfirst hsecond hbegins word rest => ⟨hnone hfirst hbegins, ?_⟩
  exact hnone hsecond fun c hbegins' hbegins'' => hbegins c hbegins'' hbegins'

/-- A match tells the branch, whatever stands behind it. -/
theorem PrefixFree.index_unique (h : PrefixFree branches) {i j : Nat} {first second : Node}
    {word rest : List Char} (hi : branches[i]? = some first) (hj : branches[j]? = some second)
    (hfirst : Matches first word) (hsecond : Matches second (word ++ rest)) : i = j := by
  obtain ⟨hi', rfl⟩ := List.getElem?_eq_some_iff.1 hi
  obtain ⟨hj', rfl⟩ := List.getElem?_eq_some_iff.1 hj
  have hpairs := List.pairwise_iff_getElem.1 h
  rcases Nat.lt_trichotomy i j with hij | hij | hij
  · exact absurd hsecond ((hpairs i j hi' hj' hij word rest).1 hfirst)
  · exact hij
  · exact absurd hsecond ((hpairs j i hj' hi' hij word rest).2 hfirst)

theorem unambiguous_alternation (h : PrefixFree branches)
    (hbranches : ∀ branch ∈ branches, Unambiguous branch) : Unambiguous (.alternation branches) := by
  intro word choices others hword hword'
  obtain ⟨i, first, inner, hi, hfirst, rfl⟩ := derives_alternation.1 hword
  obtain ⟨j, second, inner', hj, hsecond, rfl⟩ := derives_alternation.1 hword'
  have hstart : Matches second (word ++ []) := ⟨inner', by rwa [List.append_nil]⟩
  obtain rfl := h.index_unique hi hj ⟨inner, hfirst⟩ hstart
  rw [hi] at hj
  cases hj
  rw [hbranches first (List.mem_of_getElem? hi) _ _ _ hfirst hsecond]

theorem unambiguous_concat (h : Sequential parts) (hparts : ∀ part ∈ parts, Unambiguous part) :
    Unambiguous (.concat parts) := by
  induction parts with
  | nil =>
    intro word choices others hword hword'
    rw [(derives_nil.1 hword).2, (derives_nil.1 hword').2]
  | cons part parts ih =>
    intro word choices others hword hword'
    obtain ⟨front, back, first, rest, hfront, hback, rfl, rfl⟩ := derives_cons.1 hword
    obtain ⟨front', back', first', rest', hfront', hback', heq, rfl⟩ := derives_cons.1 hword'
    have hstop : ∀ {back rest}, Derives (.concat parts) back rest →
        ∀ c ∈ back.head?, ¬ GoesOn part c :=
      fun hback c hc hgoes => h.1 c hgoes (begins_of_head? ⟨_, hback⟩ hc)
    obtain ⟨rfl, rfl⟩ := cut_unique ⟨first, hfront⟩ ⟨first', hfront'⟩ heq (hstop hback)
      (hstop hback')
    rw [hparts part List.mem_cons_self _ _ _ hfront hfront',
      ih h.2 (fun other hother => hparts other (List.mem_cons_of_mem part hother)) _ _ _ hback hback']

/-- The end of each round is told by the next character. -/
theorem rounds_unique (hbody : Unambiguous body) (hempty : ¬ Matches body [])
    (hstop : ∀ c, GoesOn body c → ¬ Begins body c) {rounds rounds' : List (List Char × List Nat)}
    (hrounds : ∀ round ∈ rounds, Derives body round.1 round.2)
    (hrounds' : ∀ round ∈ rounds', Derives body round.1 round.2)
    (heq : rounds.flatMap (·.1) = rounds'.flatMap (·.1)) : rounds = rounds' := by
  have hnone : ∀ {round : List Char × List Nat} {rest : List Char},
      Derives body round.1 round.2 → [] ≠ round.1 ++ rest := by
    intro round rest hround heq
    obtain ⟨hnil, -⟩ := List.append_eq_nil_iff.1 heq.symm
    exact hempty ⟨round.2, hnil ▸ hround⟩
  have hhead : ∀ {rounds : List (List Char × List Nat)},
      (∀ round ∈ rounds, Derives body round.1 round.2) →
        ∀ c ∈ (rounds.flatMap (·.1)).head?, ¬ GoesOn body c := by
    intro rounds hrounds c hc hgoes
    rw [List.flatMap_def] at hc
    refine hstop c hgoes (begins_of_flatten (fun word hword => ?_) hc)
    obtain ⟨round, hround, rfl⟩ := List.mem_map.1 hword
    exact ⟨round.2, hrounds round hround⟩
  induction rounds generalizing rounds' with
  | nil =>
    cases rounds' with
    | nil => rfl
    | cons round rounds' => exact absurd heq (hnone (hrounds' round List.mem_cons_self))
  | cons round rounds ih =>
    have hround := hrounds round List.mem_cons_self
    have hrest := fun other hother => hrounds other (List.mem_cons_of_mem round hother)
    cases rounds' with
    | nil => exact absurd heq.symm (hnone hround)
    | cons round' rounds' =>
      have hround' := hrounds' round' List.mem_cons_self
      have hrest' := fun other hother => hrounds' other (List.mem_cons_of_mem round' hother)
      obtain ⟨hword, hback⟩ := cut_unique ⟨_, hround⟩ ⟨_, hround'⟩ heq (hhead hrest) (hhead hrest')
      rw [← hword] at hround'
      have hchoices := hbody _ _ _ hround hround'
      rw [Prod.ext hword hchoices, ih hrest hrest' hback]

theorem unambiguous_repetition {least : Nat} {most : Option Nat} (hbody : Unambiguous body)
    (hempty : ¬ Matches body []) (hstop : ∀ c, GoesOn body c → ¬ Begins body c) :
    Unambiguous (.repetition least most body) := by
  intro word choices others hword hword'
  obtain ⟨rounds, hrounds, -, -, rfl, rfl⟩ := derives_repetition.1 hword
  obtain ⟨rounds', hrounds', -, -, heq, rfl⟩ := derives_repetition.1 hword'
  rw [rounds_unique hbody hempty hstop hrounds hrounds' heq]

/-! ## Going on -/

theorem not_goesOn_one {set : Unicode.CodeRanges} : ¬ GoesOn (.one set) c := by
  rintro ⟨word, rest, hword, hlonger⟩
  obtain ⟨d, -, rfl⟩ := matches_one.1 hword
  obtain ⟨e, -, heq⟩ := matches_one.1 hlonger
  simp at heq

theorem goesOn_alternation (h : PrefixFree branches) (hgoes : GoesOn (.alternation branches) c) :
    ∃ branch ∈ branches, GoesOn branch c := by
  obtain ⟨word, rest, hword, hlonger⟩ := hgoes
  obtain ⟨first, hfirst, hword⟩ := matches_alternation.1 hword
  obtain ⟨second, hsecond, hlonger⟩ := matches_alternation.1 hlonger
  obtain ⟨i, hi⟩ := List.mem_iff_getElem?.1 hfirst
  obtain ⟨j, hj⟩ := List.mem_iff_getElem?.1 hsecond
  obtain rfl := h.index_unique hi hj hword hlonger
  rw [hi] at hj
  cases hj
  exact ⟨first, hfirst, word, rest, hword, hlonger⟩

theorem goesOn_concat (h : Sequential parts) (hgoes : GoesOn (.concat parts) c) :
    ∃ part ∈ parts, GoesOn part c := by
  induction parts with
  | nil =>
    obtain ⟨word, rest, -, hlonger⟩ := hgoes
    exact absurd (matches_nil.1 hlonger) (by simp)
  | cons part parts ih =>
    obtain ⟨word, rest, hword, hlonger⟩ := hgoes
    obtain ⟨front, back, hfront, hback, rfl⟩ := matches_cons.1 hword
    obtain ⟨front', back', hfront', hback', heq⟩ := matches_cons.1 hlonger
    have hstop : ∀ {back}, Matches (.concat parts) back → ∀ d ∈ back.head?, ¬ GoesOn part d :=
      fun hback d hd hgoes => h.1 d hgoes (begins_of_head? hback hd)
    rw [List.append_assoc] at heq
    rcases cut_or_goesOn hfront hfront' heq (hstop hback) (hstop hback') with hcut | hpart
    · rw [← hcut] at hback'
      obtain ⟨other, hother, hgoes⟩ := ih h.2 ⟨back, rest, hback, hback'⟩
      exact ⟨other, List.mem_cons_of_mem part hother, hgoes⟩
    · exact ⟨part, List.mem_cons_self, hpart⟩

/-- Rounds go on within the last one, or with one more. -/
theorem rounds_goOn (hstop : ∀ c, GoesOn body c → ¬ Begins body c)
    {words words' : List (List Char)} (hwords : ∀ round ∈ words, Matches body round)
    (hwords' : ∀ round ∈ words', Matches body round) {rest : List Char}
    (heq : words.flatten ++ c :: rest = words'.flatten) :
    GoesOn body c ∨ (Begins body c ∧ words.length < words'.length) := by
  have hhead : ∀ {words : List (List Char)}, (∀ round ∈ words, Matches body round) →
      ∀ d ∈ words.flatten.head?, ¬ GoesOn body d :=
    fun hwords d hd hgoes => hstop d hgoes (begins_of_flatten hwords hd)
  induction words generalizing words' with
  | nil =>
    cases words' with
    | nil => cases heq
    | cons first words' =>
      right
      refine ⟨begins_of_flatten hwords' ?_, by simp⟩
      rw [← heq]
      rfl
  | cons first words ih =>
    cases words' with
    | nil => exact absurd heq (by simp)
    | cons second words' =>
      have hrest := fun other hother => hwords other (List.mem_cons_of_mem first hother)
      have hrest' := fun other hother => hwords' other (List.mem_cons_of_mem second hother)
      rw [List.flatten_cons, List.flatten_cons, List.append_assoc] at heq
      rcases cut_or_goesOn (hwords first List.mem_cons_self) (hwords' second List.mem_cons_self) heq
        (hhead hrest) (hhead hrest') with hcut | hgoes
      · rcases ih hrest hrest' hcut with hgoes | ⟨hbegins, hless⟩
        · exact Or.inl hgoes
        · exact Or.inr ⟨hbegins, by simpa using hless⟩
      · exact Or.inl hgoes

theorem goesOn_repetition {least : Nat} {most : Option Nat}
    (hstop : ∀ c, GoesOn body c → ¬ Begins body c) (hgoes : GoesOn (.repetition least most body) c) :
    GoesOn body c ∨ (Begins body c ∧ most ≠ some least) := by
  obtain ⟨word, rest, hword, hlonger⟩ := hgoes
  obtain ⟨words, hwords, hleast, -, rfl⟩ := matches_repetition hword
  obtain ⟨words', hwords', -, hmost, heq⟩ := matches_repetition hlonger
  rcases rounds_goOn hstop hwords hwords' heq with hbody | ⟨hbegins, hless⟩
  · exact Or.inl hbody
  · refine Or.inr ⟨hbegins, fun hfixed => ?_⟩
    have hcount := hmost least hfixed
    omega

/-! ## Determined nodes -/

mutual
/-- A determined node derives no word in two ways. -/
theorem unambiguous_of_determined : ∀ node, Determined node → Unambiguous node
  | .empty, _ => fun _ _ _ hword hword' => by cases hword; cases hword'; rfl
  | .one _, _ => fun _ _ _ hword hword' => by cases hword; cases hword'; rfl
  | .look _, _ => fun _ _ _ hword hword' => by cases hword; cases hword'; rfl
  | .repetition _ _ body, h =>
    unambiguous_repetition (unambiguous_of_determined body h.2.2) h.1 (h.2.1 rfl)
  | .capture body, h => fun word choices others hword hword' =>
    unambiguous_of_determined body h word choices others (derives_capture.1 hword)
      (derives_capture.1 hword')
  | .alternation branches, h => unambiguous_alternation (h.1 rfl) (unambiguous_of_mem branches h.2)
  | .concat parts, h => unambiguous_concat h.1 (unambiguous_of_mem parts h.2)

theorem unambiguous_of_mem : ∀ nodes, DecidedAll (fun _ => false) nodes →
    ∀ node ∈ nodes, Unambiguous node
  | [], _ => List.forall_mem_nil _
  | first :: nodes, h =>
    List.forall_mem_cons.2 ⟨unambiguous_of_determined first h.1, unambiguous_of_mem nodes h.2⟩
end

mutual
/-- A determined node goes on with nothing but another round. -/
theorem varying_of_goesOn : ∀ node, Determined node → GoesOn node c →
    ∃ inner ∈ node.varyingBodies, Begins inner c
  | .empty, _, ⟨_, _, _, hlonger⟩ => absurd (matches_empty.1 hlonger) (by simp)
  | .look _, _, ⟨_, _, _, hlonger⟩ => absurd (matches_look.1 hlonger) (by simp)
  | .one _, _, hgoes => absurd hgoes not_goesOn_one
  | .repetition least most body, h, hgoes => by
    unfold Node.varyingBodies
    rcases goesOn_repetition (h.2.1 rfl) hgoes with hbody | ⟨hbegins, hvarying⟩
    · obtain ⟨inner, hinner, hbegins⟩ := varying_of_goesOn body h.2.2 hbody
      refine ⟨inner, ?_, hbegins⟩
      split
      · exact hinner
      · exact List.mem_cons_of_mem body hinner
    · rw [if_neg hvarying]
      exact ⟨body, List.mem_cons_self, hbegins⟩
  | .capture body, h, ⟨word, rest, hword, hlonger⟩ =>
    varying_of_goesOn body h ⟨word, rest, matches_capture.1 hword, matches_capture.1 hlonger⟩
  | .alternation branches, h, hgoes =>
    varying_of_mem branches h.2 (goesOn_alternation (h.1 rfl) hgoes)
  | .concat parts, h, hgoes => varying_of_mem parts h.2 (goesOn_concat h.1 hgoes)

theorem varying_of_mem : ∀ nodes, DecidedAll (fun _ => false) nodes →
    (∃ node ∈ nodes, GoesOn node c) → ∃ inner ∈ Node.varyingBodies.ofAll nodes, Begins inner c
  | [], _, ⟨_, hmem, _⟩ => nomatch hmem
  | first :: nodes, h, ⟨node, hmem, hgoes⟩ => by
    unfold Node.varyingBodies.ofAll
    rcases List.mem_cons.1 hmem with heq | hmem
    · obtain ⟨inner, hinner, hbegins⟩ := varying_of_goesOn first h.1 (heq ▸ hgoes)
      exact ⟨inner, List.mem_append_left _ hinner, hbegins⟩
    · obtain ⟨inner, hinner, hbegins⟩ := varying_of_mem nodes h.2 ⟨node, hmem, hgoes⟩
      exact ⟨inner, List.mem_append_right _ hinner, hbegins⟩
end

/-! ## The two rules -/

/-- By the first rule the end of a round is told by the next character. -/
theorem Rules.stops (h : Rules body) (hbody : Determined body) :
    ∀ c, GoesOn body c → ¬ Begins body c := by
  intro c hgoes
  obtain ⟨inner, hinner, hbegins⟩ := varying_of_goesOn body hbody hgoes
  exact h.nested inner hinner c hbegins

variable {ruled : Option Nat → Bool}

mutual
/-- Under the two rules, what is decided where they do not look is decided everywhere. -/
theorem determined_of_rules : ∀ (node : Node) (isBody : Bool),
    (∀ least most body, Node.repetition least most body ∈ node.repetitions → ruled most = true →
      Rules body) →
    (isBody = true → Apart node.branches) → Decided ruled isBody node → Determined node
  | .empty, _, _, _, _ => trivial
  | .one _, _, _, _, _ => trivial
  | .look _, _, _, _, _ => trivial
  | .repetition least most body, _, hrules, _, ⟨hempty, hstops, hdecided⟩ => by
    have hself := hrules least most body List.mem_cons_self
    have hinner := fun least most inner hmem =>
      hrules least most inner (List.mem_cons_of_mem (Node.repetition _ _ body) hmem)
    -- The body comes first: the first rule speaks of what the body goes on with only once the
    -- body is decided itself.
    have hbody := determined_of_rules body (ruled most) hinner
      (fun hruled => (hself hruled).branches) hdecided
    refine ⟨hempty, fun _ => ?_, hbody⟩
    cases hruled : ruled most with
    | true => exact (hself hruled).stops hbody
    | false => exact hstops hruled
  | .capture body, isBody, hrules, hbranches, hdecided =>
    determined_of_rules body isBody hrules hbranches hdecided
  | .alternation branches, isBody, hrules, hbranches, ⟨hfree, hdecided⟩ => by
    refine ⟨fun _ => ?_, determinedAll_of_rules branches hrules hdecided⟩
    cases isBody with
    | true => exact (hbranches rfl).prefixFree
    | false => exact hfree rfl
  | .concat parts, _, hrules, _, ⟨hsequential, hdecided⟩ =>
    ⟨hsequential, determinedAll_of_rules parts hrules hdecided⟩

theorem determinedAll_of_rules : ∀ nodes : List Node,
    (∀ least most body, Node.repetition least most body ∈ Node.repetitions.ofAll nodes →
      ruled most = true → Rules body) →
    DecidedAll ruled nodes → DecidedAll (fun _ => false) nodes
  | [], _, _ => trivial
  | first :: nodes, hrules, ⟨hfirst, hrest⟩ => by
    have hfront := fun least most body hmem =>
      hrules least most body (List.mem_append_left (Node.repetitions.ofAll nodes) hmem)
    have hback := fun least most body hmem =>
      hrules least most body (List.mem_append_right first.repetitions hmem)
    exact ⟨determined_of_rules first false hfront (fun h => absurd h Bool.false_ne_true) hfirst,
      determinedAll_of_rules nodes hback hrest⟩
end

end Schemata.Pattern
