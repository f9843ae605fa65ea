import Schemata.Entries

/-!
# Ascending entries

The order that every operation on entries keeps, and what it is good for: maps in ascending key
order with the same values are the same list.

    Ascending m → Ascending (put m k v)                                   (Ascending.put)
    Ascending a → Ascending b → (∀ k, get? a k = get? b k) → a = b        (Ascending.ext)
    Ascending m → modify (put m k v) k f = put m k (f v)                  (Ascending.modify_put)

Pairs that come in any order make a map in which the last pair of each key counts.

    get? (ofPairs ps) k = last? ps k                                      (get?_ofPairs)
    ofPairs ps = ofPairs qs ↔ ∀ k, last? ps k = last? qs k                (ofPairs_eq_iff)
-/

namespace Schemata.Entries

variable {α β : Type}

/-- The keys ascend, so that each key has one pair. -/
def Ascending (entries : Entries α) : Prop := entries.Pairwise fun a b => a.1 < b.1

/-- The value of the last pair of a key, in whatever order the pairs are. -/
def last? (pairs : List (String × α)) (key : String) : Option α := get? pairs.reverse key

theorem ascending_nil : Ascending ([] : Entries α) := List.Pairwise.nil

theorem Ascending.nodup_keys {entries : Entries α} (h : Ascending entries) :
    (keys entries).Nodup := by
  refine List.pairwise_map.2 (h.imp fun hlt heq => ?_)
  rw [heq] at hlt
  exact String.lt_irrefl _ hlt

/-- A key below all keys has no value. -/
theorem get?_eq_none_of_below (entries : Entries α) (key : String)
    (h : ∀ entry ∈ entries, key < entry.1) : get? entries key = none := by
  rw [get?_eq_none_iff]
  intro hk
  obtain ⟨entry, hmem, he⟩ := List.mem_map.1 hk
  have hlt := h entry hmem
  rw [he] at hlt
  exact String.lt_irrefl key hlt

theorem mem_of_get? {entries : Entries α} {key : String} {value : α}
    (h : get? entries key = some value) : (key, value) ∈ entries := by
  induction entries with
  | nil => cases h
  | cons head rest ih =>
    obtain ⟨k, v⟩ := head
    rw [get?_cons] at h
    split at h
    · next hkey =>
      cases h
      rw [hkey]
      exact List.mem_cons_self
    · exact List.mem_cons_of_mem _ (ih h)

theorem get?_of_mem {entries : Entries α} (h : Ascending entries) {key : String} {value : α}
    (hmem : (key, value) ∈ entries) : get? entries key = some value := by
  induction entries with
  | nil => cases hmem
  | cons head rest ih =>
    obtain ⟨k, v⟩ := head
    obtain ⟨habove, hrest⟩ := List.pairwise_cons.1 h
    rw [get?_cons]
    rcases List.mem_cons.1 hmem with heq | hmem
    · cases heq
      rw [if_pos rfl]
    · rw [if_neg, ih hrest hmem]
      rintro rfl
      exact String.lt_irrefl k (habove _ hmem)

theorem mem_put (entries : Entries α) (key : String) (value : α) (entry : String × α)
    (h : entry ∈ put entries key value) : entry = (key, value) ∨ entry ∈ entries := by
  induction entries with
  | nil => exact Or.inl (by simpa [Entries.put] using h)
  | cons head rest ih =>
    obtain ⟨k, v⟩ := head
    unfold Entries.put at h
    split at h
    · rcases List.mem_cons.1 h with h | h
      · exact Or.inl h
      · exact Or.inr (List.mem_cons_of_mem _ h)
    · split at h
      · exact List.mem_cons.1 h
      · rcases List.mem_cons.1 h with h | h
        · exact Or.inr (by rw [h]; exact List.mem_cons_self)
        · rcases ih h with h | h
          · exact Or.inl h
          · exact Or.inr (List.mem_cons_of_mem _ h)

theorem mem_keys_put (entries : Entries α) (key : String) (value : α) (other : String) :
    other ∈ keys (put entries key value) ↔ other = key ∨ other ∈ keys entries := by
  rw [← get?_isSome_iff, get?_put, ← get?_isSome_iff]
  split
  · next h => simp [h]
  · next h => simp [h]

theorem mapValues_put (f : α → β) (entries : Entries α) (key : String) (value : α) :
    mapValues f (put entries key value) = put (mapValues f entries) key (f value) := by
  induction entries with
  | nil => rfl
  | cons head rest ih =>
    obtain ⟨k, v⟩ := head
    simp only [mapValues] at ih
    by_cases hk : k = key
    · simp [Entries.put, mapValues, hk]
    · by_cases hl : key < k <;> simp [Entries.put, mapValues, hk, hl, ih]

/-- Only the last value that was put for a key counts. -/
theorem put_put (entries : Entries α) (key : String) (value other : α) :
    put (put entries key value) key other = put entries key other := by
  induction entries with
  | nil => simp [Entries.put]
  | cons head rest ih =>
    obtain ⟨k, v⟩ := head
    by_cases hk : k = key
    · simp [Entries.put, hk]
    · by_cases hl : key < k <;> simp [Entries.put, hk, hl, ih]

/-- A key above all others comes last. -/
theorem put_of_above {entries : Entries α} {key : String} (h : ∀ entry ∈ entries, entry.1 < key)
    (value : α) : put entries key value = entries ++ [(key, value)] := by
  induction entries with
  | nil => rfl
  | cons head rest ih =>
    obtain ⟨habove, hrest⟩ := List.forall_mem_cons.1 h
    have hne : head.1 ≠ key := fun heq => String.lt_irrefl key (heq ▸ habove)
    rw [Entries.put, if_neg hne, if_neg (String.lt_asymm habove), ih hrest, List.cons_append]

/-- A new key makes a map longer by one. -/
theorem length_put_of_not_mem (entries : Entries α) {key : String} (value : α)
    (h : key ∉ keys entries) : (put entries key value).length = entries.length + 1 := by
  induction entries with
  | nil => rfl
  | cons head rest ih =>
    obtain ⟨k, v⟩ := head
    have hne : k ≠ key := fun heq => h (by rw [heq]; exact List.mem_cons_self)
    have hrest : key ∉ keys rest := fun hmem => h (List.mem_cons_of_mem k hmem)
    unfold Entries.put
    rw [if_neg hne]
    split
    · rfl
    · rw [List.length_cons, ih hrest, List.length_cons]

theorem Ascending.put {entries : Entries α} (h : Ascending entries) (key : String) (value : α) :
    Ascending (put entries key value) := by
  induction entries with
  | nil => exact List.pairwise_singleton _ _
  | cons head rest ih =>
    obtain ⟨k, v⟩ := head
    obtain ⟨habove, hrest⟩ := List.pairwise_cons.1 h
    unfold Entries.put
    split
    · next hk =>
      subst hk
      exact List.pairwise_cons.2 ⟨habove, hrest⟩
    · next hk =>
      split
      · next hlt =>
        refine List.pairwise_cons.2 ⟨fun entry hmem => ?_, h⟩
        rcases List.mem_cons.1 hmem with rfl | hmem
        · exact hlt
        · exact String.lt_trans hlt (habove entry hmem)
      · next hlt =>
        refine List.pairwise_cons.2 ⟨fun entry hmem => ?_, ih hrest⟩
        rcases mem_put rest key value entry hmem with rfl | hmem
        · -- neither equal nor smaller, so greater
          apply Decidable.byContradiction
          intro hge
          exact hk (String.le_antisymm (String.not_lt.1 hlt) (String.not_lt.1 hge))
        · exact habove entry hmem

theorem mem_without {entries : Entries α} {key : String} {entry : String × α} :
    entry ∈ without entries key ↔ entry ∈ entries ∧ entry.1 ≠ key := by
  induction entries with
  | nil => simp [Entries.without]
  | cons head rest ih =>
    rw [Entries.without]
    split
    · next hkey =>
      rw [ih, List.mem_cons]
      constructor
      · rintro ⟨hmem, hne⟩
        exact ⟨Or.inr hmem, hne⟩
      · rintro ⟨rfl | hmem, hne⟩
        · exact absurd hkey hne
        · exact ⟨hmem, hne⟩
    · next hkey =>
      rw [List.mem_cons, ih, List.mem_cons]
      constructor
      · rintro (rfl | ⟨hmem, hne⟩)
        · exact ⟨Or.inl rfl, hkey⟩
        · exact ⟨Or.inr hmem, hne⟩
      · rintro ⟨rfl | hmem, hne⟩
        · exact Or.inl rfl
        · exact Or.inr ⟨hmem, hne⟩

theorem without_eq_filter (entries : Entries α) (key : String) :
    without entries key = entries.filter fun entry => entry.1 ≠ key := by
  induction entries with
  | nil => rfl
  | cons head rest ih =>
    obtain ⟨k, v⟩ := head
    rw [Entries.without, List.filter_cons, ih]
    by_cases hkey : k = key <;> simp [hkey]

/-- Without a key that is not there, a map is what it was. -/
theorem without_of_get?_eq_none {entries : Entries α} {key : String}
    (h : get? entries key = none) : without entries key = entries := by
  rw [get?_eq_none_iff] at h
  rw [without_eq_filter, List.filter_eq_self]
  intro entry hentry
  have hne : entry.1 ≠ key := by
    rintro rfl
    exact h (List.mem_map_of_mem hentry)
  simpa using hne

theorem without_sublist (entries : Entries α) (key : String) :
    (without entries key).Sublist entries := by
  induction entries with
  | nil => exact List.Sublist.slnil
  | cons head rest ih =>
    obtain ⟨k, v⟩ := head
    unfold Entries.without
    split
    · exact ih.cons _
    · exact ih.cons_cons _

theorem Ascending.without {entries : Entries α} (h : Ascending entries) (key : String) :
    Ascending (without entries key) :=
  List.Pairwise.sublist (without_sublist entries key) h

theorem Ascending.modify {entries : Entries α} (h : Ascending entries) (key : String)
    (f : α → α) : Ascending (modify entries key f) := by
  have keep : ∀ entry : String × α,
      (if entry.1 = key then (entry.1, f entry.2) else entry).1 = entry.1 := by
    intro entry
    split <;> rfl
  unfold Entries.modify
  refine List.pairwise_map.2 (List.Pairwise.imp (fun {a b} hab => ?_) h)
  rw [keep a, keep b]
  exact hab

theorem Ascending.mapValues {entries : Entries α} (h : Ascending entries) (f : α → β) :
    Ascending (mapValues f entries) :=
  List.pairwise_map.2 (List.Pairwise.imp (fun hab => hab) h)

/-- Ascending maps with the same values are the same list. -/
theorem Ascending.ext {a b : Entries α} (ha : Ascending a) (hb : Ascending b)
    (h : ∀ key, get? a key = get? b key) : a = b := by
  induction a generalizing b with
  | nil =>
    cases b with
    | nil => rfl
    | cons head rest =>
      have := h head.1
      simp [get?] at this
  | cons head rest ih =>
    obtain ⟨k, v⟩ := head
    cases b with
    | nil =>
      have := h k
      simp [get?] at this
    | cons head' rest' =>
      obtain ⟨k', v'⟩ := head'
      obtain ⟨habove, hrest⟩ := List.pairwise_cons.1 ha
      obtain ⟨habove', hrest'⟩ := List.pairwise_cons.1 hb
      -- each head is the least key of its list, so the heads have the same key
      have hk : k = k' := by
        apply Decidable.byContradiction
        intro hne
        have hmem := h k
        have hmem' := h k'
        rw [get?_cons, if_pos rfl, get?_cons, if_neg (Ne.symm hne)] at hmem
        rw [get?_cons, if_neg hne, get?_cons, if_pos rfl] at hmem'
        have hin : k ∈ keys rest' := (get?_isSome_iff rest' k).1 (by rw [← hmem]; rfl)
        have hin' : k' ∈ keys rest := (get?_isSome_iff rest k').1 (by rw [hmem']; rfl)
        obtain ⟨entry, he, rfl⟩ := List.mem_map.1 hin
        obtain ⟨entry', he', rfl⟩ := List.mem_map.1 hin'
        exact String.lt_asymm (habove entry' he') (habove' entry he)
      subst hk
      have hv : v = v' := by simpa [get?] using h k
      subst hv
      have htail : rest = rest' := by
        refine ih hrest hrest' fun key => ?_
        by_cases hkey : k = key
        · subst hkey
          rw [get?_eq_none_of_below rest k fun entry he => habove entry he,
            get?_eq_none_of_below rest' k fun entry he => habove' entry he]
        · simpa [get?, hkey] using h key
      rw [htail]

/-- Changing the value that was put is putting the changed value. -/
theorem Ascending.modify_put {entries : Entries α} (h : Ascending entries) (key : String) (value : α)
    (f : α → α) : Entries.modify (Entries.put entries key value) key f =
      Entries.put entries key (f value) := by
  refine ((h.put key value).modify key f).ext (h.put key (f value)) fun other => ?_
  rw [get?_modify, get?_put, get?_put]
  split <;> rfl

/-- Putting the value that is there changes nothing. -/
theorem Ascending.put_of_get? {entries : Entries α} (h : Ascending entries) {key : String} {value : α}
    (hget : get? entries key = some value) : Entries.put entries key value = entries := by
  refine (h.put key value).ext h fun other => ?_
  rw [get?_put]
  split
  · next heq => rw [heq, hget]
  · rfl

/-! ## Pairs in any order -/

theorem get?_append (first second : List (String × α)) (key : String) :
    get? (first ++ second) key = (get? first key).or (get? second key) := by
  induction first with
  | nil => rfl
  | cons head rest ih =>
    obtain ⟨k, v⟩ := head
    rw [List.cons_append, get?_cons, get?_cons, ih]
    split <;> rfl

theorem last?_cons (k : String) (v : α) (pairs : List (String × α)) (key : String) :
    last? ((k, v) :: pairs) key = (last? pairs key).or (if k = key then some v else none) := by
  unfold last?
  rw [List.reverse_cons, get?_append, get?_cons, get?_nil]

theorem mem_of_last? {pairs : List (String × α)} {key : String} {value : α}
    (h : last? pairs key = some value) : (key, value) ∈ pairs :=
  List.mem_reverse.1 (mem_of_get? h)

theorem last?_map (f : α → β) (pairs : List (String × α)) (key : String) :
    last? (mapValues f pairs) key = (last? pairs key).map f := by
  have hreverse : (mapValues f pairs).reverse = mapValues f pairs.reverse := by
    unfold mapValues
    rw [List.map_reverse]
  unfold last?
  rw [hreverse, get?_mapValues]

/-- In a map made from pairs the last pair of each key counts. -/
theorem get?_ofPairs (pairs : List (String × α)) (key : String) :
    get? (ofPairs pairs) key = last? pairs key := by
  have hfold : ∀ (pairs : List (String × α)) (entries : Entries α),
      get? (pairs.foldl (fun entries pair => Entries.put entries pair.1 pair.2) entries) key =
        (last? pairs key).or (get? entries key) := by
    intro pairs
    induction pairs with
    | nil => intro entries; rfl
    | cons head rest ih =>
      intro entries
      obtain ⟨k, v⟩ := head
      rw [List.foldl_cons, ih, last?_cons, get?_put]
      by_cases hkey : key = k
      · subst hkey
        cases last? rest key <;> simp
      · simp [hkey, Ne.symm hkey]
  unfold ofPairs
  rw [hfold, get?_nil, Option.or_none]

theorem ascending_ofPairs (pairs : List (String × α)) : Ascending (ofPairs pairs) := by
  have hfold : ∀ (pairs : List (String × α)) (entries : Entries α), Ascending entries →
      Ascending (pairs.foldl (fun entries pair => Entries.put entries pair.1 pair.2) entries) := by
    intro pairs
    induction pairs with
    | nil => intro entries h; exact h
    | cons head rest ih => intro entries h; exact ih _ (h.put head.1 head.2)
  exact hfold pairs [] ascending_nil

/-- Maps made from pairs are equal if the last pairs of each key are. -/
theorem ofPairs_eq_iff {pairs pairs' : List (String × α)} :
    ofPairs pairs = ofPairs pairs' ↔ ∀ key, last? pairs key = last? pairs' key := by
  constructor
  · intro h key
    rw [← get?_ofPairs, h, get?_ofPairs]
  · intro h
    refine (ascending_ofPairs pairs).ext (ascending_ofPairs pairs') fun key => ?_
    rw [get?_ofPairs, h, get?_ofPairs]

/-- The last pair of a key is the only one, if each key has one. -/
theorem last?_eq_some_iff {pairs : List (String × α)} (honce : (pairs.map (·.1)).Nodup)
    {key : String} {value : α} : last? pairs key = some value ↔ (key, value) ∈ pairs := by
  refine ⟨mem_of_last?, fun hmem => ?_⟩
  induction pairs with
  | nil => cases hmem
  | cons first pairs ih =>
    obtain ⟨k, v⟩ := first
    rw [List.map_cons, List.nodup_cons] at honce
    rw [last?_cons]
    rcases List.mem_cons.1 hmem with heq | hmem
    · cases heq
      cases hlast : last? pairs key with
      | none => rw [if_pos rfl, Option.none_or]
      | some other => exact absurd (List.mem_map_of_mem (mem_of_last? hlast)) honce.1
    · rw [ih honce.2 hmem, Option.some_or]

end Schemata.Entries
