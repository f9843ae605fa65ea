/-!
# Keyed entries

Maps from names to values as lists of pairs. The operations keep the pairs in ascending key order
with one pair per key, so that iteration order is key order and equal maps are equal lists.

    Entries.get? (Entries.put m k v) k = some v                    (get?_put_self)
    k ≠ k' → Entries.get? (Entries.put m k v) k' = get? m k'       (get?_put_of_ne)
    Entries.get? (Entries.without m k) k' = if k' = k then none else get? m k'   (get?_without)
    Entries.get? (Entries.modify m k f) k' = if k' = k then (get? m k').map f else get? m k'
                                                                   (get?_modify)
-/

namespace Schemata

/-- Pairs of a key and a value, in ascending key order, one pair per key. -/
abbrev Entries (α : Type) := List (String × α)

namespace Entries

variable {α β : Type}

/-! ## Algorithm -/

/-- The value of a key. -/
def get? : Entries α → String → Option α
  | [], _ => none
  | (k, v) :: rest, key => if k = key then some v else get? rest key

def hasKey (entries : Entries α) (key : String) : Bool := (get? entries key).isSome

/-- Sets the value of a key; a key that is already there keeps its place. -/
def put : Entries α → String → α → Entries α
  | [], key, value => [(key, value)]
  | (k, v) :: rest, key, value =>
    if k = key then (key, value) :: rest
    else if key < k then (key, value) :: (k, v) :: rest
    else (k, v) :: put rest key value

/-- Removes every pair with the key. -/
def without : Entries α → String → Entries α
  | [], _ => []
  | (k, v) :: rest, key => if k = key then without rest key else (k, v) :: without rest key

def keys (entries : Entries α) : List String := entries.map (·.1)

/-- The map with the given pairs; the last pair of a key wins. -/
def ofPairs (pairs : List (String × α)) : Entries α :=
  pairs.foldl (fun entries pair => put entries pair.1 pair.2) []

def mapValues (f : α → β) (entries : Entries α) : Entries β :=
  entries.map fun entry => (entry.1, f entry.2)

/-- Replaces the value of a key that is there. -/
def modify (entries : Entries α) (key : String) (f : α → α) : Entries α :=
  entries.map fun entry => if entry.1 = key then (entry.1, f entry.2) else entry

/-! ## Lemmas -/

@[simp] theorem get?_nil (key : String) : get? ([] : Entries α) key = none := rfl

theorem get?_cons (k : String) (v : α) (rest : Entries α) (key : String) :
    get? ((k, v) :: rest) key = if k = key then some v else get? rest key := rfl

@[simp] theorem get?_put_self (entries : Entries α) (key : String) (value : α) :
    get? (put entries key value) key = some value := by
  induction entries with
  | nil => simp [put, get?]
  | cons head rest ih =>
    obtain ⟨k, v⟩ := head
    by_cases hk : k = key
    · simp [put, get?, hk]
    · by_cases hl : key < k <;> simp [put, get?, hk, hl, ih]

theorem get?_put_of_ne (entries : Entries α) {key other : String} (value : α) (h : key ≠ other) :
    get? (put entries key value) other = get? entries other := by
  induction entries with
  | nil => simp [put, get?, h]
  | cons head rest ih =>
    obtain ⟨k, v⟩ := head
    by_cases hk : k = key
    · subst hk; simp [put, get?, h]
    · by_cases hl : key < k <;> simp [put, get?, hk, hl, ih, h]

theorem get?_without (entries : Entries α) (key other : String) :
    get? (without entries key) other = if other = key then none else get? entries other := by
  induction entries with
  | nil => simp [without]
  | cons head rest ih =>
    obtain ⟨k, v⟩ := head
    by_cases hk : k = key
    · subst hk
      by_cases ho : other = k
      · subst ho; simp [without, ih]
      · simp [without, ih, ho, get?, Ne.symm ho]
    · by_cases ho : k = other
      · subst ho; simp [without, get?, hk]
      · simp [without, get?, hk, ho, ih]

theorem get?_put (entries : Entries α) (key other : String) (value : α) :
    get? (put entries key value) other = if other = key then some value else get? entries other := by
  by_cases h : other = key
  · subst h; simp
  · rw [if_neg h, get?_put_of_ne entries value (Ne.symm h)]

theorem get?_modify (entries : Entries α) (key other : String) (f : α → α) :
    get? (modify entries key f) other =
      if other = key then (get? entries other).map f else get? entries other := by
  induction entries with
  | nil => simp [modify]
  | cons head rest ih =>
    obtain ⟨k, v⟩ := head
    simp only [modify] at ih
    by_cases hk : k = key
    · subst hk
      by_cases ho : k = other
      · subst ho; simp [modify, get?]
      · simp [modify, get?, ho, ih]
    · by_cases ho : k = other
      · subst ho; simp [modify, get?, hk]
      · simp [modify, get?, hk, ho, ih]

theorem get?_mapValues (f : α → β) (entries : Entries α) (key : String) :
    get? (mapValues f entries) key = (get? entries key).map f := by
  induction entries with
  | nil => rfl
  | cons head rest ih =>
    obtain ⟨k, v⟩ := head
    simp only [mapValues] at ih
    by_cases hk : k = key <;> simp [mapValues, get?, hk, ih]

theorem get?_isSome_iff (entries : Entries α) (key : String) :
    (get? entries key).isSome ↔ key ∈ keys entries := by
  induction entries with
  | nil => simp [keys]
  | cons head rest ih =>
    obtain ⟨k, v⟩ := head
    by_cases hk : k = key
    · simp [get?, keys, hk]
    · simpa [get?, keys, hk, Ne.symm hk] using ih

theorem get?_eq_none_iff (entries : Entries α) (key : String) :
    get? entries key = none ↔ key ∉ keys entries := by
  rw [← get?_isSome_iff]; simp

end Entries

end Schemata
