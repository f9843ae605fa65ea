import Schemata.Proofs.Bundle.Apart

/-!
# Keys that are assigned one after the other

Whatever names ask for keys and in whatever order, a name gets one key for good. A new name gets the
first of its candidates that neither was taken from the start nor has been given away; the search comes
to it after as many attempts as there are such keys, at most.

    the candidates before freeKey taken base are taken                       (searchEnds_freeKey)
    n candidates that are taken are n different keys                          (SearchEnds.le_length)
    the keys of a row of names = the row, by an assignment that is one-to-one, avoids the keys
      taken from the start and goes by first candidates                      (keysFor_assigned)
-/

namespace Schemata.Bundle

/-! ## Algorithm -/

/-- The candidates for a key in the order in which they are tried: the base, and then the base with a
number behind it. -/
def candidate (base : String) : Nat → String
  | 0 => base
  | number + 1 => base ++ "_" ++ toString (number + 1)

/-- The search for a key passes over some candidates, all of them taken, and ends with one that is
free. -/
structure SearchEnds (taken : List String) (base : String) (passed : Nat) (key : String) : Prop where
  found : candidate base passed = key
  free : key ∉ taken
  earlier : ∀ number < passed, candidate base number ∈ taken

namespace DefKeys

/-- The keys that names get one after the other, and what is assigned then. -/
def keysFor (keys : DefKeys) : List String → List String × DefKeys
  | [] => ([], keys)
  | name :: names =>
    let (key, keys) := keys.keyFor name
    let (rest, keys) := keys.keysFor names
    (key :: rest, keys)

end DefKeys

/-! ## The search for a key -/

theorem candidate_injective {base : String} {m n : Nat} (h : candidate base m = candidate base n) :
    m = n := by
  have hlonger : ∀ number, base ≠ base ++ "_" ++ toString (number + 1) := by
    intro number heq
    have hlength := congrArg String.length heq
    simp only [String.length_append] at hlength
    have hline : "_".length = 1 := rfl
    omega
  cases m with
  | zero =>
    cases n with
    | zero => rfl
    | succ n => exact absurd h (hlonger n)
  | succ m =>
    cases n with
    | zero => exact absurd h.symm (hlonger m)
    | succ n => exact numbered_injective h

/-- All candidates that the search passes over are different keys. -/
theorem SearchEnds.le_length {taken : List String} {base key : String} {passed : Nat}
    (h : SearchEnds taken base passed key) : passed ≤ taken.length := by
  have hnodup : ((List.range passed).map (candidate base)).Nodup := by
    unfold List.Nodup
    rw [List.pairwise_map]
    exact List.nodup_range.imp fun hne heq => hne (candidate_injective heq)
  have hsubset : (List.range passed).map (candidate base) ⊆ taken := by
    intro key hkey
    obtain ⟨number, hnumber, rfl⟩ := List.mem_map.1 hkey
    exact h.earlier number (List.mem_range.1 hnumber)
  have hlength := hnodup.length_le_of_subset hsubset
  simpa using hlength

/-- Where the search ends depends on which keys are taken, and on nothing else about them. -/
theorem SearchEnds.congr {taken taken' : List String} {base key : String} {passed : Nat}
    (h : SearchEnds taken base passed key) (hsame : ∀ key, key ∈ taken ↔ key ∈ taken') :
    SearchEnds taken' base passed key :=
  ⟨h.found, fun hmem => h.free ((hsame key).2 hmem),
    fun number hnumber => (hsame _).1 (h.earlier number hnumber)⟩

/-- The search among numbered keys passes over keys that are taken. -/
theorem freeNumbered_passes (taken : List String) (base : String) (fuel number : Nat) :
    ∃ passed, freeNumbered taken base fuel (number + 1) = candidate base (number + 1 + passed) ∧
      ∀ before < passed, candidate base (number + 1 + before) ∈ taken := by
  induction fuel generalizing number with
  | zero => exact ⟨0, rfl, fun before hbefore => absurd hbefore (Nat.not_lt_zero before)⟩
  | succ fuel ih =>
    unfold freeNumbered
    dsimp only
    split
    · next htaken =>
      obtain ⟨passed, hfound, hearlier⟩ := ih (number + 1)
      refine ⟨passed + 1, ?_, ?_⟩
      · rw [hfound]
        congr 1
        omega
      · intro before hbefore
        cases before with
        | zero => exact List.contains_iff_mem.1 htaken
        | succ before =>
          have hmem := hearlier before (by omega)
          rwa [show number + 1 + 1 + before = number + 1 + (before + 1) by omega] at hmem
    · exact ⟨0, rfl, fun before hbefore => absurd hbefore (Nat.not_lt_zero before)⟩

/-- The free key is where the search ends. -/
theorem searchEnds_freeKey (taken : List String) (base : String) :
    ∃ passed, SearchEnds taken base passed (freeKey taken base) := by
  have hfree := freeKey_not_mem taken base
  by_cases hbase : base ∈ taken
  · obtain ⟨passed, hfound, hearlier⟩ := freeNumbered_passes taken base taken.length 0
    have hkey : freeKey taken base = candidate base (0 + 1 + passed) := by
      unfold freeKey
      rw [if_pos (List.contains_iff_mem.2 hbase), hfound]
    refine ⟨0 + 1 + passed, hkey.symm, hfree, fun number hnumber => ?_⟩
    cases number with
    | zero => exact hbase
    | succ number =>
      have hmem := hearlier number (by omega)
      rwa [show 0 + 1 + number = number + 1 by omega] at hmem
  · have hkey : freeKey taken base = base := by
      unfold freeKey
      rw [if_neg (mt List.contains_iff_mem.1 hbase)]
    refine ⟨0, hkey.symm, hfree, fun number hnumber => ?_⟩
    exact absurd hnumber (Nat.not_lt_zero number)

/-! ## Rows of names -/

namespace DefKeys

variable {initial names : List String} {keys : DefKeys} {name key : String}

theorem keysFor_cons (keys : DefKeys) (name : String) (names : List String) :
    keys.keysFor (name :: names) =
      ((keys.keyFor name).1 :: ((keys.keyFor name).2.keysFor names).1,
        ((keys.keyFor name).2.keysFor names).2) := rfl

theorem keysFor_append (keys : DefKeys) (front back : List String) :
    keys.keysFor (front ++ back) =
      ((keys.keysFor front).1 ++ ((keys.keysFor front).2.keysFor back).1,
        ((keys.keysFor front).2.keysFor back).2) := by
  induction front generalizing keys with
  | nil => rfl
  | cons name front ih =>
    rw [List.cons_append, keysFor_cons, keysFor_cons, ih]
    rfl

theorem extends_keysFor (keys : DefKeys) (names : List String) :
    keys.Extends (keys.keysFor names).2 := by
  induction names generalizing keys with
  | nil => exact Extends.refl keys
  | cons name names ih => exact (extends_keyFor keys name).trans (ih (keys.keyFor name).2)

theorem Distinct.keysFor (h : Distinct initial keys) (names : List String) :
    Distinct initial (keys.keysFor names).2 := by
  induction names generalizing keys with
  | nil => exact h
  | cons name names ih => exact ih (h.keyFor name)

theorem Written.keysFor (h : keys.Written) (names : List String) :
    (keys.keysFor names).2.Written := by
  induction names generalizing keys with
  | nil => exact h
  | cons name names ih => exact ih (h.keyFor name).2

theorem mem_names_keysFor (keys : DefKeys) (names : List String) (other : String) :
    other ∈ (keys.keysFor names).2.names ↔ other ∈ names ∨ other ∈ keys.names := by
  induction names generalizing keys with
  | nil => simp [DefKeys.keysFor]
  | cons name names ih =>
    rw [keysFor_cons]
    dsimp only
    rw [ih, names_keyFor, List.mem_cons]
    split
    · next hmem =>
      constructor
      · rintro (h | h)
        · exact Or.inl (Or.inr h)
        · exact Or.inr h
      · rintro ((rfl | h) | h)
        · exact Or.inr hmem
        · exact Or.inl h
        · exact Or.inr h
    · rw [List.mem_cons, ← or_assoc, or_comm (a := other ∈ names)]

/-- The keys that names get are those that they have in the end. -/
theorem keysFor_eq_map (keys : DefKeys) (names : List String) :
    (keys.keysFor names).1 = names.map (keys.keysFor names).2.keyOf := by
  induction names generalizing keys with
  | nil => rfl
  | cons name names ih =>
    have hkept := extends_keysFor (keys.keyFor name).2 names name _ (lookup_keyFor keys name)
    rw [keysFor_cons, List.map_cons]
    dsimp only
    rw [ih, keyOf_of_lookup hkept]

/-- A name that has asked for a key has one. -/
theorem lookup_keysFor (keys : DefKeys) (hmem : name ∈ names) :
    (keys.keysFor names).2.byName.lookup name = some ((keys.keysFor names).2.keyOf name) := by
  have hname : name ∈ (keys.keysFor names).2.names :=
    (mem_names_keysFor keys names name).2 (Or.inl hmem)
  obtain ⟨key, hlookup, -⟩ := keyFor_of_mem hname
  rw [keyOf_of_lookup hlookup]
  exact hlookup

theorem mem_of_lookup (h : keys.byName.lookup name = some key) : (name, key) ∈ keys.byName := by
  obtain ⟨before, behind, hsplit, -⟩ := List.lookup_eq_some_iff.1 h
  rw [hsplit]
  simp

/-- Each assigned key is the key of a name. -/
theorem Distinct.lookup_of_mem (h : Distinct initial keys) (hmem : (name, key) ∈ keys.byName) :
    keys.byName.lookup name = some key := by
  obtain ⟨before, behind, hsplit⟩ := List.append_of_mem hmem
  refine List.lookup_eq_some_iff.2 ⟨before, behind, hsplit, fun other hother => ?_⟩
  have hnames := h.names
  unfold DefKeys.names at hnames
  rw [hsplit, List.map_append, List.map_cons, List.nodup_append] at hnames
  have hne := hnames.2.2 other.1 (List.mem_map_of_mem hother) name List.mem_cons_self
  simpa using Ne.symm hne

/-- After a row of names those keys are taken that were taken from the start, or that one of the names
has got. -/
theorem mem_taken_keysFor (initial names : List String) (key : String) :
    key ∈ ((start initial).keysFor names).2.taken ↔
      key ∈ names.map ((start initial).keysFor names).2.keyOf ++ initial := by
  have hdistinct := (distinct_start initial).keysFor names
  rw [hdistinct.taken, List.mem_append, List.mem_append]
  refine or_congr_left ?_
  constructor
  · intro hmem
    obtain ⟨⟨name, key⟩, hentry, rfl⟩ := List.mem_map.1 hmem
    have hname : name ∈ names := by
      have hnames : name ∈ ((start initial).keysFor names).2.names := List.mem_map_of_mem hentry
      rcases (mem_names_keysFor (start initial) names name).1 hnames with hasked | hstart
      · exact hasked
      · cases hstart
    refine List.mem_map.2 ⟨name, hname, ?_⟩
    have hlookup := lookup_keysFor (start initial) hname
    rw [hdistinct.lookup_of_mem hentry] at hlookup
    exact (Option.some.inj hlookup).symm
  · intro hmem
    obtain ⟨name, hname, rfl⟩ := List.mem_map.1 hmem
    exact List.mem_map.2 ⟨_, mem_of_lookup (lookup_keysFor (start initial) hname), rfl⟩

/-- What has been assigned stays, whatever asks for keys later. -/
theorem keyOf_keysFor_append (keys : DefKeys) {front : List String} (hmem : name ∈ front)
    (back : List String) :
    (keys.keysFor (front ++ back)).2.keyOf name = (keys.keysFor front).2.keyOf name := by
  have hkept := extends_keysFor (keys.keysFor front).2 back name _ (lookup_keysFor keys hmem)
  rw [keysFor_append]
  exact keyOf_of_lookup hkept

/-- A new name gets the free key, and keeps it. -/
theorem keyOf_keysFor_cons (hnew : name ∉ keys.names) (back : List String) :
    (keys.keysFor (name :: back)).2.keyOf name = freeKey keys.taken (baseKey name) := by
  have hkept := extends_keysFor (keys.keyFor name).2 back name _ (lookup_keyFor keys name)
  rw [keysFor_cons]
  dsimp only
  rw [keyOf_of_lookup hkept, keyFor_of_not_mem hnew]

/-- The key of a new name is where the search ends among the keys taken from the start and those of the
names before it. -/
theorem searchEnds_keyOf (initial front back : List String) (hnew : name ∉ front) :
    ∃ passed ≤ initial.length + front.length,
      SearchEnds (front.map ((start initial).keysFor (front ++ name :: back)).2.keyOf ++ initial)
        (baseKey name) passed (((start initial).keysFor (front ++ name :: back)).2.keyOf name) := by
  have hunnamed : name ∉ ((start initial).keysFor front).2.names := by
    rw [mem_names_keysFor]
    rintro (hasked | hstart)
    · exact hnew hasked
    · cases hstart
  have hkey : ((start initial).keysFor (front ++ name :: back)).2.keyOf name =
      freeKey ((start initial).keysFor front).2.taken (baseKey name) := by
    rw [keysFor_append]
    exact keyOf_keysFor_cons hunnamed back
  have hfront : front.map ((start initial).keysFor (front ++ name :: back)).2.keyOf =
      front.map ((start initial).keysFor front).2.keyOf :=
    List.map_congr_left fun other hother => keyOf_keysFor_append (start initial) hother _
  obtain ⟨passed, hends⟩ :=
    searchEnds_freeKey ((start initial).keysFor front).2.taken (baseKey name)
  have hends' := hends.congr (mem_taken_keysFor initial front)
  have hlength := hends'.le_length
  rw [List.length_append, List.length_map] at hlength
  rw [hfront, hkey]
  exact ⟨passed, by omega, hends'⟩

/-! ## Top theorem -/

/-- Whatever keys are taken from the start, and whatever names ask for a key one after the other: there
is one assignment of keys to names by which all of them get theirs, so that the same name always gets
the same key. Different names get different keys, none of which was taken from the start; they consist
of letters, digits, "_", "-" and ".", and are written in a pointer as they are. The search for the key
of a new name ends, with the first of its candidates that is neither taken from the start nor the key
of an earlier name, and it passes over no more candidates than there are such keys. -/
theorem keysFor_assigned (initial names : List String) :
    ∃ assign : String → String,
      ((start initial).keysFor names).1 = names.map assign ∧
      (∀ name ∈ names, ∀ other ∈ names, assign name = assign other → name = other) ∧
      (∀ name ∈ names, assign name ∉ initial ∧
        (∀ c ∈ (assign name).toList, c.isAlphanum = true ∨ c = '_' ∨ c = '-' ∨ c = '.') ∧
        Json.escapeStep (assign name) = assign name) ∧
      (∀ front name, front ++ [name] <+: names → name ∉ front →
        ∃ passed ≤ initial.length + front.length,
          SearchEnds (front.map assign ++ initial) (baseKey name) passed (assign name)) := by
  have hdistinct := (distinct_start initial).keysFor names
  have hwritten := (written_start initial).keysFor names
  refine ⟨((start initial).keysFor names).2.keyOf, keysFor_eq_map _ names, ?_, ?_, ?_⟩
  · intro name hname other hother heq
    have hlookup := lookup_keysFor (start initial) hname
    rw [heq] at hlookup
    exact hdistinct.injective hlookup (lookup_keysFor (start initial) hother)
  · intro name hname
    have hentry := mem_of_lookup (lookup_keysFor (start initial) hname)
    have hkey := hwritten _ hentry
    refine ⟨hdistinct.apart _ (List.mem_map_of_mem hentry), fun c hc => ?_, hkey.escapeStep⟩
    exact keyChar_eq_self_iff.1 (hkey c hc)
  · rintro front name ⟨back, rfl⟩ hnew
    rw [List.append_assoc]
    exact searchEnds_keyOf initial front back hnew

/-- The second of these names finds its base given away and the first number behind it taken from the
start; the third has asked before. -/
example : ((start ["a_b_1"]).keysFor ["a b", "a/b", "a b", "a.b"]).1 = ["a_b", "a_b_2", "a_b", "a.b"] :=
  by decide

end DefKeys

end Schemata.Bundle
