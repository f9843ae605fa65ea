import Mathlib.Data.List.Basic
import Schemata.Pattern.Node

/-!
# Derivations

How a node comes to match a word, by the choices on the way: which branch of a choice is taken, and
how often a repetition goes round. Conditions on positions count as the empty word.

    a node begins with c        it has a match that starts with c
    a node goes on with c       it has a match, and a longer one that goes on with c behind it

A match behind which the rest of a word is nothing that the node goes on with is cut off in one way
only.
                                                                                         (cut_unique)
-/

namespace Schemata.Pattern

open Unicode (CodeRanges)

/-! ## Algorithm -/

/-- The derivations of words from a node, with the choices in order. A round is a word with its
choices. -/
inductive Derives : Node → List Char → List Nat → Prop
  | empty : Derives .empty [] []
  | look (kind : Look) : Derives (.look kind) [] []
  | one {set : CodeRanges} {c : Char} (hcontains : CodeRanges.contains set c.toNat = true) :
      Derives (.one set) [c] []
  | capture {body : Node} {word : List Char} {choices : List Nat}
      (hbody : Derives body word choices) : Derives (.capture body) word choices
  | alternation {branches : List Node} {branch : Node} {word : List Char} {choices : List Nat}
      (i : Nat) (hbranch : branches[i]? = some branch) (hword : Derives branch word choices) :
      Derives (.alternation branches) word (i :: choices)
  | nil : Derives (.concat []) [] []
  | cons {part : Node} {parts : List Node} {word rest : List Char} {choices others : List Nat}
      (hpart : Derives part word choices) (hrest : Derives (.concat parts) rest others) :
      Derives (.concat (part :: parts)) (word ++ rest) (choices ++ others)
  | repetition {least : Nat} {most : Option Nat} {body : Node}
      (rounds : List (List Char × List Nat))
      (hrounds : ∀ round ∈ rounds, Derives body round.1 round.2) (hleast : least ≤ rounds.length)
      (hmost : ∀ count ∈ most, rounds.length ≤ count) :
      Derives (.repetition least most body) (rounds.flatMap (·.1))
        (rounds.length :: rounds.flatMap (·.2))

/-- A node matches a word. -/
def Matches (node : Node) (word : List Char) : Prop := ∃ choices, Derives node word choices

/-- A node has a match that starts with a character. -/
def Begins (node : Node) (c : Char) : Prop := ∃ rest, Matches node (c :: rest)

/-- A node has a match and a longer one that goes on with a character behind it. -/
def GoesOn (node : Node) (c : Char) : Prop :=
  ∃ word rest, Matches node word ∧ Matches node (word ++ c :: rest)

/-- No word has two derivations from a node. -/
def Unambiguous (node : Node) : Prop :=
  ∀ word choices others, Derives node word choices → Derives node word others → choices = others

/-! ## Derivations by the kind of node -/

variable {node body part : Node} {nodes branches parts : List Node} {word : List Char}
  {choices : List Nat}

theorem derives_capture : Derives (.capture body) word choices ↔ Derives body word choices :=
  ⟨fun h => by cases h; assumption, .capture⟩

theorem derives_alternation :
    Derives (.alternation branches) word choices ↔
      ∃ i branch others, branches[i]? = some branch ∧ Derives branch word others ∧
        choices = i :: others := by
  constructor
  · intro h
    cases h with
    | alternation i hbranch hword => exact ⟨i, _, _, hbranch, hword, rfl⟩
  · rintro ⟨i, branch, others, hbranch, hword, rfl⟩
    exact .alternation i hbranch hword

theorem derives_nil : Derives (.concat []) word choices ↔ word = [] ∧ choices = [] := by
  constructor
  · intro h
    cases h
    exact ⟨rfl, rfl⟩
  · rintro ⟨rfl, rfl⟩
    exact .nil

theorem derives_cons :
    Derives (.concat (part :: parts)) word choices ↔
      ∃ front back first others, Derives part front first ∧ Derives (.concat parts) back others ∧
        word = front ++ back ∧ choices = first ++ others := by
  constructor
  · intro h
    cases h with
    | cons hpart hrest => exact ⟨_, _, _, _, hpart, hrest, rfl, rfl⟩
  · rintro ⟨front, back, first, others, hpart, hrest, rfl, rfl⟩
    exact .cons hpart hrest

theorem derives_repetition {least : Nat} {most : Option Nat} :
    Derives (.repetition least most body) word choices ↔
      ∃ rounds : List (List Char × List Nat), (∀ round ∈ rounds, Derives body round.1 round.2) ∧
        least ≤ rounds.length ∧ (∀ count ∈ most, rounds.length ≤ count) ∧
        word = rounds.flatMap (·.1) ∧ choices = rounds.length :: rounds.flatMap (·.2) := by
  constructor
  · intro h
    cases h with
    | repetition rounds hrounds hleast hmost => exact ⟨rounds, hrounds, hleast, hmost, rfl, rfl⟩
  · rintro ⟨rounds, hrounds, hleast, hmost, rfl, rfl⟩
    exact .repetition rounds hrounds hleast hmost

/-! ## Matches by the kind of node -/

theorem matches_one {set : CodeRanges} :
    Matches (.one set) word ↔ ∃ c, CodeRanges.contains set c.toNat = true ∧ word = [c] := by
  constructor
  · rintro ⟨_, h⟩
    cases h with
    | one hcontains => exact ⟨_, hcontains, rfl⟩
  · rintro ⟨c, hcontains, rfl⟩
    exact ⟨[], .one hcontains⟩

theorem matches_empty : Matches .empty word ↔ word = [] := by
  constructor
  · rintro ⟨_, h⟩
    cases h
    rfl
  · rintro rfl
    exact ⟨[], .empty⟩

theorem matches_look {kind : Look} : Matches (.look kind) word ↔ word = [] := by
  constructor
  · rintro ⟨_, h⟩
    cases h
    rfl
  · rintro rfl
    exact ⟨[], .look kind⟩

theorem matches_capture : Matches (.capture body) word ↔ Matches body word :=
  exists_congr fun _ => derives_capture

theorem matches_alternation :
    Matches (.alternation branches) word ↔ ∃ branch ∈ branches, Matches branch word := by
  constructor
  · rintro ⟨_, h⟩
    obtain ⟨i, branch, others, hbranch, hword, -⟩ := derives_alternation.1 h
    exact ⟨branch, List.mem_of_getElem? hbranch, others, hword⟩
  · rintro ⟨branch, hmem, choices, hword⟩
    obtain ⟨i, hi⟩ := List.mem_iff_getElem?.1 hmem
    exact ⟨_, .alternation i hi hword⟩

theorem matches_nil : Matches (.concat []) word ↔ word = [] := by
  constructor
  · rintro ⟨_, h⟩
    exact (derives_nil.1 h).1
  · rintro rfl
    exact ⟨[], .nil⟩

theorem matches_cons :
    Matches (.concat (part :: parts)) word ↔
      ∃ front back, Matches part front ∧ Matches (.concat parts) back ∧ word = front ++ back := by
  constructor
  · rintro ⟨_, h⟩
    obtain ⟨front, back, first, others, hpart, hrest, rfl, -⟩ := derives_cons.1 h
    exact ⟨front, back, ⟨first, hpart⟩, ⟨others, hrest⟩, rfl⟩
  · rintro ⟨front, back, ⟨first, hpart⟩, ⟨others, hrest⟩, rfl⟩
    exact ⟨_, .cons hpart hrest⟩

theorem matches_repetition {least : Nat} {most : Option Nat}
    (h : Matches (.repetition least most body) word) :
    ∃ words : List (List Char), (∀ round ∈ words, Matches body round) ∧
      least ≤ words.length ∧ (∀ count ∈ most, words.length ≤ count) ∧ word = words.flatten := by
  obtain ⟨_, h⟩ := h
  obtain ⟨rounds, hrounds, hleast, hmost, rfl, -⟩ := derives_repetition.1 h
  refine ⟨rounds.map (·.1), fun round hround => ?_, by simpa using hleast, by simpa using hmost,
    List.flatMap_def⟩
  obtain ⟨pair, hpair, rfl⟩ := List.mem_map.1 hround
  exact ⟨pair.2, hrounds pair hpair⟩

/-! ## Beginnings -/

theorem begins_capture {c : Char} : Begins (.capture body) c ↔ Begins body c :=
  exists_congr fun _ => matches_capture

theorem begins_alternation {c : Char} :
    Begins (.alternation branches) c ↔ ∃ branch ∈ branches, Begins branch c := by
  constructor
  · rintro ⟨rest, h⟩
    obtain ⟨branch, hmem, hword⟩ := matches_alternation.1 h
    exact ⟨branch, hmem, rest, hword⟩
  · rintro ⟨branch, hmem, rest, hword⟩
    exact ⟨rest, matches_alternation.2 ⟨branch, hmem, hword⟩⟩

/-- A row begins with its first part, or with the rest where that part is empty. -/
theorem begins_cons {c : Char} (h : Begins (.concat (part :: parts)) c) :
    Begins part c ∨ (Matches part [] ∧ Begins (.concat parts) c) := by
  obtain ⟨rest, h⟩ := h
  obtain ⟨front, back, hpart, hparts, heq⟩ := matches_cons.1 h
  cases front with
  | nil => exact Or.inr ⟨hpart, rest, by rwa [heq]⟩
  | cons d front =>
    obtain ⟨rfl, -⟩ := List.cons.inj heq
    exact Or.inl ⟨front, hpart⟩

theorem begins_of_head? {c : Char} (h : Matches node word) (hc : c ∈ word.head?) :
    Begins node c := by
  cases word with
  | nil => cases hc
  | cons d rest =>
    cases hc
    exact ⟨rest, h⟩

/-- Rounds begin with what one of them begins with. -/
theorem begins_of_flatten {c : Char} {words : List (List Char)}
    (hwords : ∀ round ∈ words, Matches node round) (hc : c ∈ words.flatten.head?) :
    Begins node c := by
  induction words with
  | nil => cases hc
  | cons first words ih =>
    obtain ⟨hfirst, hrest⟩ := List.forall_mem_cons.1 hwords
    cases first with
    | nil => exact ih hrest hc
    | cons d first => exact begins_of_head? hfirst hc

/-! ## Cutting -/

/-- Behind a match that is cut off differently, one of the two rests starts with what the node goes
on with. -/
theorem cut_unique {first second back back' : List Char} (hfirst : Matches node first)
    (hsecond : Matches node second) (heq : first ++ back = second ++ back')
    (hback : ∀ c ∈ back.head?, ¬ GoesOn node c) (hback' : ∀ c ∈ back'.head?, ¬ GoesOn node c) :
    first = second ∧ back = back' := by
  rcases List.append_eq_append_iff.1 heq with ⟨more, rfl, rfl⟩ | ⟨more, rfl, rfl⟩
  · cases more with
    | nil => simp
    | cons c more => exact absurd ⟨first, more, hfirst, hsecond⟩ (hback c rfl)
  · cases more with
    | nil => simp
    | cons c more => exact absurd ⟨second, more, hsecond, hfirst⟩ (hback' c rfl)

/-- Where a word goes on behind a match and its rest, either the match is cut off in the same way,
or there is no rest and the node itself goes on. -/
theorem cut_or_goesOn {first second back back' rest : List Char} {c : Char}
    (hfirst : Matches node first) (hsecond : Matches node second)
    (heq : first ++ (back ++ c :: rest) = second ++ back')
    (hback : ∀ d ∈ back.head?, ¬ GoesOn node d) (hback' : ∀ d ∈ back'.head?, ¬ GoesOn node d) :
    back ++ c :: rest = back' ∨ GoesOn node c := by
  rcases List.append_eq_append_iff.1 heq with ⟨more, rfl, hmore⟩ | ⟨more, rfl, rfl⟩
  · cases more with
    | nil => exact Or.inl hmore
    | cons d more =>
      have hgoes : GoesOn node d := ⟨first, more, hfirst, hsecond⟩
      cases back with
      | nil =>
        obtain ⟨rfl, -⟩ := List.cons.inj hmore
        exact Or.inr hgoes
      | cons e back =>
        obtain ⟨rfl, -⟩ := List.cons.inj hmore
        exact absurd hgoes (hback e rfl)
  · cases more with
    | nil => exact Or.inl rfl
    | cons d more => exact absurd ⟨second, more, hsecond, hfirst⟩ (hback' d rfl)

end Schemata.Pattern
