import Schemata.Bundle

/-!
# The keys of copies

A new name gets a key that is not taken, so that no two names have the same key and no key stands in
the document already. Behind a base that is taken the numbered keys are tried one after the other;
they are all different, and there is one more of them than there are taken keys.

    freeKey taken base ∉ taken                                            (freeKey_not_mem)
    the keys of names are different, and apart from those of the document (Distinct.keyFor)
    names that have a key keep it                                         (extends_keyFor)
    keys consist of letters, digits, "_", "-" and "."                     (isKey_freeKey)
-/

namespace Schemata.Bundle

/-! ## Algorithm -/

/-- The numbered keys behind a base, from a number on. -/
def numbered (base : String) (number count : Nat) : List String :=
  (List.range' number count).map fun k => base ++ "_" ++ toString k

/-- A text of the characters that keys have. -/
def IsKey (text : String) : Prop := ∀ c ∈ text.toList, keyChar c = c

namespace DefKeys

def names (keys : DefKeys) : List String := keys.byName.map (·.1)

/-- The keys of names are all different, and none of them was taken from the start. -/
structure Distinct (initial : List String) (keys : DefKeys) : Prop where
  taken : keys.taken = keys.byName.map (·.2) ++ initial
  names : keys.names.Nodup
  fresh : (keys.byName.map (·.2)).Nodup
  apart : ∀ key ∈ keys.byName.map (·.2), key ∉ initial

/-- All keys of names consist of the characters of keys. -/
def Written (keys : DefKeys) : Prop := ∀ entry ∈ keys.byName, IsKey entry.2

/-- Names keep the keys that they have. -/
def Extends (before after : DefKeys) : Prop :=
  ∀ name key, before.byName.lookup name = some key → after.byName.lookup name = some key

end DefKeys

/-! ## Free keys -/

theorem numbered_injective {base : String} {m n : Nat}
    (h : base ++ "_" ++ toString m = base ++ "_" ++ toString n) : m = n := by
  have hdigits : Nat.toDigits 10 m = Nat.toDigits 10 n := by
    have hlist := congrArg String.toList h
    simpa [String.toList_append] using hlist
  have hvalue := congrArg (Nat.ofDigitChars 10 · 0) hdigits
  simpa using hvalue

theorem numbered_nodup (base : String) (number count : Nat) :
    (numbered base number count).Nodup := by
  unfold numbered List.Nodup
  rw [List.pairwise_map]
  exact (List.nodup_range' 1).imp fun hne heq => hne (numbered_injective heq)

/-- A numbered key is taken only if all that were tried before it are. -/
theorem freeNumbered_mem {taken : List String} {base : String} {fuel number : Nat}
    (h : freeNumbered taken base fuel number ∈ taken) :
    ∀ key ∈ numbered base number (fuel + 1), key ∈ taken := by
  induction fuel generalizing number with
  | zero =>
    intro key hkey
    have heq : key = base ++ "_" ++ toString number := by simpa [numbered] using hkey
    rw [heq]
    exact h
  | succ fuel ih =>
    unfold freeNumbered at h
    dsimp only at h
    split at h
    · next htaken =>
      intro key hkey
      unfold numbered at hkey
      rw [List.range'_succ, List.map_cons, List.mem_cons] at hkey
      rcases hkey with rfl | hkey
      · exact List.contains_iff_mem.1 htaken
      · exact ih h key hkey
    · next hfree => exact absurd (List.contains_iff_mem.2 h) hfree

/-- A free key is free. -/
theorem freeKey_not_mem (taken : List String) (base : String) : freeKey taken base ∉ taken := by
  intro h
  unfold freeKey at h
  split at h
  · have hall := freeNumbered_mem h
    have hlength := (numbered_nodup base 1 (taken.length + 1)).length_le_of_subset hall
    unfold numbered at hlength
    rw [List.length_map, List.length_range'] at hlength
    omega
  · next hfree => exact hfree (List.contains_iff_mem.2 h)

/-! ## Characters of keys -/

theorem keyChar_eq_self_iff {c : Char} :
    keyChar c = c ↔ c.isAlphanum = true ∨ c = '_' ∨ c = '-' ∨ c = '.' := by
  unfold keyChar
  split
  · next hkept => simpa [or_assoc] using hkept
  · next hother =>
    refine ⟨fun h => Or.inr (Or.inl h.symm), fun h => ?_⟩
    exact absurd (by simpa [or_assoc] using h) hother

theorem isKey_baseKey (name : String) : IsKey (baseKey name) := by
  intro c hc
  unfold baseKey at hc
  rw [String.toList_ofList] at hc
  obtain ⟨original, -, rfl⟩ := List.mem_map.1 hc
  unfold keyChar
  split <;> rfl

theorem isKey_numbered {base : String} (h : IsKey base) (number : Nat) :
    IsKey (base ++ "_" ++ toString number) := by
  intro c hc
  rw [String.toList_append, String.toList_append, List.mem_append, List.mem_append] at hc
  rcases hc with (hbase | hline) | hdigit
  · exact h c hbase
  · obtain rfl := List.mem_singleton.1 hline
    decide
  · have hdigits : c ∈ Nat.toDigits 10 number := by simpa using hdigit
    have halphanum : c.isAlphanum = true := by
      rw [Char.isAlphanum, Nat.isDigit_of_mem_toDigits (by decide) (by decide) hdigits, Bool.or_true]
    exact keyChar_eq_self_iff.2 (Or.inl halphanum)

theorem isKey_freeKey (taken : List String) (name : String) :
    IsKey (freeKey taken (baseKey name)) := by
  have hbase := isKey_baseKey name
  have hnumbered : ∀ fuel number, IsKey (freeNumbered taken (baseKey name) fuel number) := by
    intro fuel
    induction fuel with
    | zero => exact isKey_numbered hbase
    | succ fuel ih =>
      intro number
      unfold freeNumbered
      dsimp only
      split
      · exact ih (number + 1)
      · exact isKey_numbered hbase number
  unfold freeKey
  split
  · exact hnumbered _ _
  · exact hbase

/-! ## Keys of names -/

namespace DefKeys

variable {keys : DefKeys} {name : String} {initial : List String}

theorem lookup_eq_none_iff_names : keys.byName.lookup name = none ↔ name ∉ keys.names := by
  rw [List.lookup_eq_none_iff]
  unfold names
  constructor
  · intro h hmem
    obtain ⟨pair, hpair, heq⟩ := List.mem_map.1 hmem
    exact absurd (h pair hpair) (by simp [heq])
  · intro h pair hpair
    rw [bne_iff_ne]
    rintro rfl
    exact h (List.mem_map_of_mem hpair)

theorem hasName_iff : keys.hasName name = true ↔ name ∈ keys.names := by
  unfold hasName
  cases hlookup : keys.byName.lookup name with
  | none => simpa using lookup_eq_none_iff_names.1 hlookup
  | some key =>
    have hmem : name ∈ keys.names := Decidable.byContradiction fun hnot => by
      rw [lookup_eq_none_iff_names.2 hnot] at hlookup
      cases hlookup
    simpa using hmem

theorem keyFor_of_mem (h : name ∈ keys.names) :
    ∃ key, keys.byName.lookup name = some key ∧ keys.keyFor name = (key, keys) := by
  cases hlookup : keys.byName.lookup name with
  | none => exact absurd h (lookup_eq_none_iff_names.1 hlookup)
  | some key =>
    refine ⟨key, rfl, ?_⟩
    unfold keyFor
    rw [hlookup]

theorem keyFor_of_not_mem (h : name ∉ keys.names) :
    keys.keyFor name = (freeKey keys.taken (baseKey name),
      ⟨(name, freeKey keys.taken (baseKey name)) :: keys.byName,
        freeKey keys.taken (baseKey name) :: keys.taken⟩) := by
  unfold keyFor
  rw [lookup_eq_none_iff_names.2 h]

theorem names_keyFor (keys : DefKeys) (name : String) :
    (keys.keyFor name).2.names = if name ∈ keys.names then keys.names else name :: keys.names := by
  split
  · next h =>
    obtain ⟨key, -, heq⟩ := keyFor_of_mem h
    rw [heq]
  · next h => rw [keyFor_of_not_mem h]; rfl

theorem Extends.refl (keys : DefKeys) : keys.Extends keys := fun _ _ h => h

theorem Extends.trans {first second third : DefKeys} (h : first.Extends second)
    (h' : second.Extends third) : first.Extends third :=
  fun name key hkey => h' name key (h name key hkey)

theorem extends_keyFor (keys : DefKeys) (name : String) : keys.Extends (keys.keyFor name).2 := by
  intro other key hlookup
  by_cases h : name ∈ keys.names
  · obtain ⟨key', -, heq⟩ := keyFor_of_mem h
    rw [heq]
    exact hlookup
  · rw [keyFor_of_not_mem h]
    have hne : (other == name) = false := by
      rw [beq_eq_false_iff_ne]
      rintro rfl
      rw [lookup_eq_none_iff_names.2 h] at hlookup
      cases hlookup
    dsimp only
    rw [List.lookup_cons, hne]
    exact hlookup

theorem distinct_start (initial : List String) : Distinct initial (DefKeys.start initial) :=
  ⟨rfl, List.nodup_nil, List.nodup_nil, fun _ h => nomatch h⟩

/-- With another name the keys stay different. -/
theorem Distinct.keyFor (h : Distinct initial keys) (name : String) :
    Distinct initial (keys.keyFor name).2 := by
  by_cases hmem : name ∈ keys.names
  · obtain ⟨key, -, heq⟩ := keyFor_of_mem hmem
    rw [heq]
    exact h
  · rw [keyFor_of_not_mem hmem]
    have hfree := freeKey_not_mem keys.taken (baseKey name)
    rw [h.taken, List.mem_append, not_or] at hfree
    rw [h.taken]
    refine ⟨rfl, List.nodup_cons.2 ⟨hmem, h.names⟩, List.nodup_cons.2 ⟨hfree.1, h.fresh⟩, ?_⟩
    intro key hkey
    rcases List.mem_cons.1 hkey with rfl | hkey
    · exact hfree.2
    · exact h.apart key hkey

/-- Different names have different keys. -/
theorem Distinct.injective (h : Distinct initial keys) {other key : String}
    (hname : keys.byName.lookup name = some key) (hother : keys.byName.lookup other = some key) :
    name = other := by
  obtain ⟨before, behind, hsplit, -⟩ := List.lookup_eq_some_iff.1 hname
  obtain ⟨before', behind', hsplit', -⟩ := List.lookup_eq_some_iff.1 hother
  have hmem : (other, key) ∈ keys.byName := by rw [hsplit']; simp
  have hfresh := h.fresh
  rw [hsplit, List.map_append, List.map_cons, List.nodup_append, List.nodup_cons] at hfresh
  obtain ⟨-, ⟨hbehind, -⟩, hbefore⟩ := hfresh
  rw [hsplit, List.mem_append, List.mem_cons] at hmem
  rcases hmem with hmem | heq | hmem
  · exact absurd rfl (hbefore key (List.mem_map_of_mem hmem) key List.mem_cons_self)
  · exact (congrArg Prod.fst heq).symm
  · exact absurd (List.mem_map_of_mem hmem) hbehind

theorem written_start (taken : List String) : (DefKeys.start taken).Written :=
  List.forall_mem_nil _

theorem Written.keyFor (h : keys.Written) (name : String) :
    IsKey (keys.keyFor name).1 ∧ (keys.keyFor name).2.Written := by
  by_cases hmem : name ∈ keys.names
  · obtain ⟨key, hlookup, heq⟩ := keyFor_of_mem hmem
    obtain ⟨before, behind, hsplit, -⟩ := List.lookup_eq_some_iff.1 hlookup
    rw [heq]
    exact ⟨h (name, key) (by rw [hsplit]; simp), h⟩
  · rw [keyFor_of_not_mem hmem]
    refine ⟨isKey_freeKey _ name, fun entry hentry => ?_⟩
    rcases List.mem_cons.1 hentry with rfl | hold
    · exact isKey_freeKey _ name
    · exact h entry hold

end DefKeys

end Schemata.Bundle
