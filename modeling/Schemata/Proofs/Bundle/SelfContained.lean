import Schemata.Proofs.Bundle.Pointees

/-!
# Self-contained documents

A document is self-contained if no reference in it names a schema. A bundle is: all references of
the document and of the copies are turned, and nothing else is added.

    the references of v with all of them changed are those of v, changed       (visited_mapReferences)
    bundle n d = .ok out → out is self-contained                               (bundle_selfContained)
-/

namespace Schemata.Bundle

open Json (Value)

/-! ## Algorithm -/

/-- References that name no schema. -/
def AllLocal (references : List String) : Prop :=
  ∀ reference ∈ references, Text.before '#' reference = ""

/-- No reference of a document names a schema. -/
def SelfContained (document : Value) : Prop := AllLocal (visited document)

instance (references : List String) : Decidable (AllLocal references) :=
  inferInstanceAs (Decidable (∀ reference ∈ references, Text.before '#' reference = ""))

instance (document : Value) : Decidable (SelfContained document) :=
  inferInstanceAs (Decidable (AllLocal (visited document)))

/-! ## Members and items -/

variable {members : List (String × Value)} {key : String} {value : Value}

theorem selfContained_object :
    SelfContained (.object members) ↔
      ∀ entry ∈ members, AllLocal (visitedMember entry.1 entry.2) := by
  constructor
  · intro h entry hentry reference hreference
    exact h reference (mem_visitedMembers.2 ⟨entry, hentry, hreference⟩)
  · intro h reference hreference
    obtain ⟨entry, hentry, hmem⟩ := mem_visitedMembers.1 hreference
    exact h entry hentry reference hmem

theorem selfContained_array {items : List Value} :
    SelfContained (.array items) ↔ ∀ item ∈ items, SelfContained item := by
  constructor
  · intro h item hitem reference hreference
    exact h reference (mem_visitedItems.2 ⟨item, hitem, hreference⟩)
  · intro h reference hreference
    obtain ⟨item, hitem, hmem⟩ := mem_visitedItems.1 hreference
    exact h item hitem reference hmem

theorem visitedMember_of_ne (h : key ≠ "$ref") (value : Value) :
    visitedMember key value = visited value := if_neg h

/-- The members of a self-contained object are self-contained, unless they are a `$ref`. -/
theorem SelfContained.get? (h : SelfContained (.object members)) (hkey : key ≠ "$ref")
    (hget : Entries.get? members key = some value) : SelfContained value := by
  have hentry := selfContained_object.1 h _ (Entries.mem_of_get? hget)
  rwa [visitedMember_of_ne hkey] at hentry

theorem SelfContained.put (h : SelfContained (.object members)) (hkey : key ≠ "$ref")
    (hvalue : SelfContained value) : SelfContained (.object (Entries.put members key value)) := by
  rw [selfContained_object] at h ⊢
  intro entry hentry
  rcases Entries.mem_put members key value entry hentry with rfl | hold
  · rw [visitedMember_of_ne hkey]
    exact hvalue
  · exact h entry hold

theorem SelfContained.without (h : SelfContained (.object members)) (key : String) :
    SelfContained (.object (Entries.without members key)) := by
  rw [selfContained_object] at h ⊢
  intro entry hentry
  exact h entry ((Entries.without_sublist members key).subset hentry)

/-! ## Turned references -/

mutual
/-- The references of a document with its references changed. -/
theorem visited_mapReferences (f : String → String) :
    ∀ value, visited (mapReferences f value) = (visited value).map f
  | .object members => visited_mapReferencesMembers f members
  | .array items => visited_mapReferencesItems f items
  | .null | .bool _ | .number _ | .string _ => rfl

theorem visited_mapReferencesItems (f : String → String) :
    ∀ items, visitedItems (mapReferencesItems f items) = (visitedItems items).map f
  | [] => rfl
  | item :: items => by
    rw [mapReferencesItems, visitedItems, visitedItems, visited_mapReferences f item,
      visited_mapReferencesItems f items, List.map_append]

theorem visited_mapReferencesMembers (f : String → String) :
    ∀ members, visitedMembers (mapReferencesMembers f members) = (visitedMembers members).map f
  | [] => rfl
  | (key, member) :: members => by
    have hmember : visitedMember key
        (if key = "$ref" then mapReference f member else mapReferences f member) =
          (visitedMember key member).map f := by
      unfold visitedMember
      split
      · cases member <;> rfl
      · exact visited_mapReferences f member
    rw [mapReferencesMembers, visitedMembers_cons, visitedMembers_cons, hmember,
      visited_mapReferencesMembers f members, List.map_append]
end

theorem selfContained_turned (rootName : String) (key : String → String) (here : Option String)
    (value : Value) : SelfContained (mapReferences (turn rootName key here) value) := by
  intro reference hreference
  rw [visited_mapReferences] at hreference
  obtain ⟨original, -, rfl⟩ := List.mem_map.1 hreference
  exact before_turn rootName key here original

/-! ## Keys of copies -/

/-- A dollar sign is no character of a key. -/
theorem IsKey.ne_ref (h : IsKey key) : key ≠ "$ref" := by
  rintro rfl
  exact absurd (h '$' (by decide)) (by decide)

theorem written_foldl {state : State} (h : state.keys.Written) (asked : List String) :
    (asked.foldl State.ask state).keys.Written := by
  induction asked generalizing state with
  | nil => exact h
  | cons target asked ih => exact ih (h.keyFor target).2

variable {rootName : String} {resolver : Resolver} {document out : Value}
  {copies : List (String × Value)}

/-- A rewritten document is self-contained. -/
theorem rewrite_selfContained {scope : Scope} {value : Value} {state : State}
    {result : Value × State} (h : rewrite scope value state = .ok result) :
    SelfContained result.1 := by
  rw [rewrite_turned h (.refl result.2.keys)]
  exact selfContained_turned _ _ _ value

/-- Copies are self-contained, and their keys are keys. -/
theorem copyQueue_selfContained {fuel : Nat} {state : State} (hwritten : state.keys.Written)
    (h : copyQueue rootName resolver fuel state = .ok copies) :
    ∀ copy ∈ copies, IsKey copy.1 ∧ SelfContained copy.2 := by
  induction fuel generalizing state copies with
  | zero => cases h; exact List.forall_mem_nil _
  | succ fuel ih =>
    obtain ⟨keys, queue⟩ := state
    cases queue with
    | nil => cases h; exact List.forall_mem_nil _
    | cons name queue =>
      rw [copyQueue_cons] at h
      obtain ⟨document, -, h⟩ := bind_eq_ok_iff.1 h
      obtain ⟨copy, hrewrite, h⟩ := bind_eq_ok_iff.1 h
      obtain ⟨rest, hrest, h⟩ := bind_eq_ok_iff.1 h
      cases h
      obtain ⟨hkey, hwritten'⟩ := hwritten.keyFor name
      refine List.forall_mem_cons.2 ⟨⟨hkey, rewrite_selfContained hrewrite⟩, ih ?_ hrest⟩
      rw [(rewrite_asks hrewrite).state]
      exact written_foldl hwritten' _

/-! ## Bundles -/

theorem SelfContained.withCopies {defs : Entries Value} (h : SelfContained (.object defs))
    (hcopies : ∀ copy ∈ copies, IsKey copy.1 ∧ SelfContained copy.2) :
    SelfContained (.object (withCopies defs copies)) := by
  induction copies generalizing defs with
  | nil => exact h
  | cons copy copies ih =>
    obtain ⟨hkey, hcopy⟩ := hcopies copy List.mem_cons_self
    exact ih (h.put hkey.ne_ref hcopy) fun other hother =>
      hcopies other (List.mem_cons_of_mem copy hother)

theorem SelfContained.addCopies (h : SelfContained document)
    (hcopies : ∀ copy ∈ copies, IsKey copy.1 ∧ SelfContained copy.2) :
    SelfContained (addCopies document copies) := by
  unfold Bundle.addCopies
  split
  · next members =>
    split
    · exact h
    · split
      · next defs hdefs =>
        have hold : SelfContained (.object defs) := by
          cases hget : Entries.get? members "$defs" with
          | none =>
            rw [hget] at hdefs
            cases hdefs
            exact List.forall_mem_nil _
          | some value =>
            rw [hget] at hdefs
            obtain rfl : value = .object defs := hdefs
            exact h.get? (by decide) hget
        exact h.put (by decide) (hold.withCopies hcopies)
      · exact h
  · exact h

/-- Whatever is bundled, no reference of the bundle names a schema. -/
theorem bundle_selfContained (h : bundle rootName document resolver = .ok out) :
    SelfContained out := by
  obtain ⟨root, hroot, hrest⟩ := bind_eq_ok_iff.1 h
  obtain ⟨copies, hcopies, hout⟩ := bind_eq_ok_iff.1 hrest
  cases hout
  refine (rewrite_selfContained hroot).addCopies (copyQueue_selfContained ?_ hcopies)
  rw [(rewrite_asks hroot).state]
  exact written_foldl (DefKeys.written_start _) _

end Schemata.Bundle
