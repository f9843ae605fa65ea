import Schemata.Json.Overlay
import Schemata.Proofs.EntryOrder

/-!
# Overlays by paths

What an overlay has at a path of keys follows from what the two documents have on the way there. At a
path of the upper document it is what that document has, laid over what the base has. Behind the end
of the upper document the base goes on, if it meets an object there and is one itself.

    patch has v at p → the overlay has v over what base has at p                (under?_overlay)
    patch ends before p → the overlay has what base has at p, or nothing
                                                    (under?_overlay_kept, under?_overlay_hidden)
    all of this, for every path                                                 (overlay_pathLaw)
    ordered documents have an ordered overlay                                   (Ordered.overlay)
-/

namespace Schemata.Json.Value

/-! ## Algorithm -/

/-- A document as it is kept: the keys ascend in every object of it, so that none is there twice. -/
inductive Ordered : Value → Prop
  | null : Ordered .null
  | bool (value : Bool) : Ordered (.bool value)
  | number (value : Number) : Ordered (.number value)
  | string (value : String) : Ordered (.string value)
  | array {items : List Value} (hitems : ∀ item ∈ items, Ordered item) : Ordered (.array items)
  | object {members : List (String × Value)} (hascends : Entries.Ascending members)
      (hinner : ∀ member ∈ members, Ordered member.2) : Ordered (.object members)

/-- The value at the end of a path of keys. Only objects have keys. -/
def under? (document : Value) : List String → Option Value
  | [] => some document
  | key :: keys => (document.member? key).bind (·.under? keys)

/-- A document has an object at a path. -/
def ObjectAt (document : Value) (path : List String) : Prop :=
  ∃ members, document.under? path = some (.object members)

/-- How far a path leads into a document: the longest part from its start at which there is a value. -/
structure EndsAt (document : Value) (path front : List String) : Prop where
  within : front <+: path
  leads : ∃ value, document.under? front = some value
  longest : ∀ other value, other <+: path → document.under? other = some value →
    other.length ≤ front.length

/-- What a document has at a path that is a patch laid over a base. -/
structure PathLaw (base patch merged : Value) (path : List String) : Prop where
  /-- Where the patch has anything but an object, it hides the base. -/
  plain : ∀ value, patch.under? path = some value → value.isObject = false →
    merged.under? path = some value
  /-- Where both have objects, one is laid over the other. -/
  joined : ∀ below value, base.under? path = some below → patch.under? path = some value →
    below.isObject = true → value.isObject = true →
      merged.under? path = some (below.overlay value)
  /-- Where the patch has an object and the base has none, it is taken over. -/
  added : ∀ value, patch.under? path = some value → value.isObject = true → ¬ base.ObjectAt path →
    merged.under? path = some value
  /-- Where the patch has nothing, the base is kept if both have objects where the patch ends, and is
  hidden if not. -/
  ended : patch.under? path = none → ∃ front, patch.EndsAt path front ∧
    (patch.ObjectAt front ∧ base.ObjectAt front → merged.under? path = base.under? path) ∧
    (¬ (patch.ObjectAt front ∧ base.ObjectAt front) → merged.under? path = none)

/-- A value laid over what is below it, if anything is. -/
def laidOver (below : Option Value) (value : Value) : Value :=
  match below with
  | some below => below.overlay value
  | none => value

variable {base patch value : Value} {members upper : List (String × Value)} {key : String}
  {path front : List String}

/-! ## Paths -/

theorem under?_cons (document : Value) (key : String) (keys : List String) :
    document.under? (key :: keys) = (document.member? key).bind (·.under? keys) := rfl

theorem under?_append (document : Value) (front rest : List String) :
    document.under? (front ++ rest) = (document.under? front).bind (·.under? rest) := by
  induction front generalizing document with
  | nil => rfl
  | cons key front ih =>
    rw [List.cons_append, under?_cons, under?_cons]
    cases document.member? key with
    | none => rfl
    | some child => exact ih child

/-- Nothing is under what is no object. -/
theorem member?_of_isObject (h : value.isObject = false) (key : String) :
    value.member? key = none := by
  cases value with
  | object members => cases h
  | _ => rfl

theorem objectAt_of_isObject (hvalue : value.under? path = some base) (h : base.isObject = true) :
    value.ObjectAt path := by
  cases base with
  | object members => exact ⟨members, hvalue⟩
  | _ => cases h

/-- Every path ends somewhere in a document, at its start if nowhere else. -/
theorem exists_endsAt (document : Value) (path : List String) :
    ∃ front, document.EndsAt path front := by
  induction path generalizing document with
  | nil =>
    refine ⟨[], List.nil_prefix, ⟨document, rfl⟩, fun other value hother _ => ?_⟩
    exact hother.length_le
  | cons key path ih =>
    cases hchild : document.member? key with
    | none =>
      refine ⟨[], List.nil_prefix, ⟨document, rfl⟩, fun other value hother hvalue => ?_⟩
      cases other with
      | nil => exact Nat.le_refl 0
      | cons first other =>
        obtain ⟨rfl, -⟩ := List.cons_prefix_cons.1 hother
        rw [under?_cons, hchild] at hvalue
        cases hvalue
    | some child =>
      obtain ⟨front, hwithin, ⟨value, hvalue⟩, hlongest⟩ := ih child
      refine ⟨key :: front, List.cons_prefix_cons.2 ⟨rfl, hwithin⟩, ⟨value, ?_⟩, ?_⟩
      · rw [under?_cons, hchild]
        exact hvalue
      · intro other value hother hvalue
        cases other with
        | nil => exact Nat.zero_le _
        | cons first other =>
          obtain ⟨rfl, hrest⟩ := List.cons_prefix_cons.1 hother
          rw [under?_cons, hchild] at hvalue
          have hlength := hlongest other value hrest hvalue
          simpa using hlength

/-- A path that leads to nothing goes on, where it ends, with a key that is not there. -/
theorem EndsAt.missing (h : value.EndsAt path front) (hnone : value.under? path = none) :
    ∃ last key rest, path = front ++ key :: rest ∧ value.under? front = some last ∧
      last.member? key = none := by
  obtain ⟨tail, rfl⟩ := h.within
  obtain ⟨last, hlast⟩ := h.leads
  cases tail with
  | nil =>
    rw [List.append_nil, hlast] at hnone
    cases hnone
  | cons key rest =>
    refine ⟨last, key, rest, rfl, hlast, ?_⟩
    cases hchild : last.member? key with
    | none => rfl
    | some child =>
      have hlonger : value.under? (front ++ [key]) = some child := by
        rw [under?_append, hlast]
        show (last.member? key).bind _ = some child
        rw [hchild]
        rfl
      have hlength := h.longest (front ++ [key]) child ⟨rest, by simp⟩ hlonger
      rw [List.length_append, List.length_singleton] at hlength
      omega

/-! ## Members of an overlay -/

theorem overlayMembers_cons (members : List (String × Value)) (key : String) (value : Value)
    (upper : List (String × Value)) :
    overlayMembers members ((key, value) :: upper) =
      overlayMembers (Entries.put members key (laidOver (Entries.get? members key) value)) upper :=
  rfl

/-- What an upper object does not have stays as it is below. -/
theorem get?_overlayMembers {base patch : List (String × Value)} {key : String}
    (h : Entries.get? patch key = none) :
    Entries.get? (overlayMembers base patch) key = Entries.get? base key := by
  induction patch generalizing base with
  | nil => rfl
  | cons member patch ih =>
    obtain ⟨other, value⟩ := member
    rw [Entries.get?_cons] at h
    split at h
    · cases h
    · next hne =>
      rw [overlayMembers_cons, ih h, Entries.get?_put, if_neg (Ne.symm hne)]

/-- What an upper object has is laid over what is below it. -/
theorem get?_overlayMembers_of_some (hascends : Entries.Ascending upper)
    (h : Entries.get? upper key = some value) :
    Entries.get? (overlayMembers members upper) key =
      some (laidOver (Entries.get? members key) value) := by
  induction upper generalizing members with
  | nil => cases h
  | cons member upper ih =>
    obtain ⟨other, content⟩ := member
    obtain ⟨habove, hrest⟩ := List.pairwise_cons.1 hascends
    rw [Entries.get?_cons] at h
    rw [overlayMembers_cons]
    by_cases hother : other = key
    · subst hother
      rw [if_pos rfl] at h
      cases h
      -- all further keys are greater, so that the member is not touched again
      have hgone : Entries.get? upper other = none := Entries.get?_eq_none_of_below upper other habove
      rw [get?_overlayMembers hgone, Entries.get?_put_self]
    · rw [if_neg hother] at h
      rw [ih hrest h, Entries.get?_put, if_neg (Ne.symm hother)]

theorem overlay_of_not_object (base : Value) (h : value.isObject = false) :
    base.overlay value = value := by
  cases value with
  | object members => cases h
  | _ => rfl

theorem overlay_on_not_object (h : base.isObject = false) (value : Value) :
    base.overlay value = value := by
  cases value with
  | object upper =>
    cases base with
    | object members => cases h
    | _ => rfl
  | _ => rfl

theorem laidOver_of_not_object (below : Option Value) (h : value.isObject = false) :
    laidOver below value = value := by
  cases below with
  | none => rfl
  | some below => exact overlay_of_not_object below h

/-- Only an object lies below. -/
theorem laidOver_of_not_objectAt (h : ¬ base.ObjectAt path) (value : Value) :
    laidOver (base.under? path) value = value := by
  cases hbelow : base.under? path with
  | none => rfl
  | some below =>
    cases hobject : below.isObject with
    | false => exact overlay_on_not_object hobject value
    | true => exact absurd (objectAt_of_isObject hbelow hobject) h

/-- A member of an overlay that the patch does not have is that of the base, or is hidden with it. -/
theorem member?_overlay_of_none (hnone : Entries.get? upper key = none) :
    ((Value.object members).overlay (.object upper)).member? key =
      (Value.object members).member? key :=
  get?_overlayMembers hnone

/-! ## Ordered documents -/

theorem Ordered.ascends (h : (Value.object members).Ordered) : Entries.Ascending members := by
  cases h with
  | object hascends _ => exact hascends

/-- The members of an ordered object are ordered. -/
theorem Ordered.member (h : (Value.object members).Ordered)
    (hvalue : Entries.get? members key = some value) : value.Ordered := by
  cases h with
  | object _ hinner => exact hinner (key, value) (Entries.mem_of_get? hvalue)

/-- One more member at its place keeps an object ordered. -/
theorem Ordered.put (h : (Value.object members).Ordered) (key : String) (hvalue : value.Ordered) :
    (Value.object (Entries.put members key value)).Ordered := by
  cases h with
  | object hascends hinner =>
    refine .object (hascends.put key value) fun member hmember => ?_
    rcases Entries.mem_put members key value member hmember with rfl | hold
    · exact hvalue
    · exact hinner member hold

/-! ## Paths of an overlay -/

/-- At a path of the patch, an overlay has what the patch has, laid over what the base has. -/
theorem under?_overlay (base : Value) (hordered : patch.Ordered)
    (h : patch.under? path = some value) :
    (base.overlay patch).under? path = some (laidOver (base.under? path) value) := by
  induction path generalizing base patch with
  | nil =>
    cases h
    rfl
  | cons key path ih =>
    obtain ⟨child, hchild, hvalue⟩ := Option.bind_eq_some_iff.1 h
    cases patch with
    | object upper =>
      have hascends := hordered.ascends
      have hordered : child.Ordered := hordered.member hchild
      by_cases hbase : base.isObject = true
      · cases base with
        | object members =>
          have hmember : ((Value.object members).overlay (.object upper)).member? key =
              some (laidOver (Entries.get? members key) child) :=
            get?_overlayMembers_of_some hascends hchild
          have hbelow : (Value.object members).under? (key :: path) =
              (Entries.get? members key).bind (·.under? path) := rfl
          rw [under?_cons, hmember, hbelow]
          cases Entries.get? members key with
          | none => exact hvalue
          | some below => exact ih below hordered hvalue
        | _ => cases hbase
      · -- nothing is below, and the patch stands for itself
        rw [Bool.not_eq_true] at hbase
        rw [overlay_on_not_object hbase, under?_cons base, member?_of_isObject hbase]
        exact h
    | _ => cases hchild

/-- Behind the end of the patch an overlay goes on as what it has there. -/
theorem under?_overlay_append (base : Value) (hordered : patch.Ordered)
    (h : patch.under? front = some value) (rest : List String) :
    (base.overlay patch).under? (front ++ rest) =
      (laidOver (base.under? front) value).under? rest := by
  rw [under?_append, under?_overlay base hordered h]
  rfl

/-- Where the patch ends in an object and the base has one, the base is kept. -/
theorem under?_overlay_kept (hordered : patch.Ordered) (hends : patch.EndsAt path front)
    (hnone : patch.under? path = none) (hpatch : patch.ObjectAt front) (hbase : base.ObjectAt front) :
    (base.overlay patch).under? path = base.under? path := by
  obtain ⟨last, key, rest, rfl, hlast, hmissing⟩ := hends.missing hnone
  obtain ⟨upper, hupper⟩ := hpatch
  obtain ⟨members, hmembers⟩ := hbase
  obtain rfl : last = .object upper := Option.some.inj (hlast.symm.trans hupper)
  calc (base.overlay patch).under? (front ++ key :: rest)
      = ((Value.object members).overlay (.object upper)).under? (key :: rest) := by
        rw [under?_overlay_append base hordered hlast, hmembers]
        rfl
    _ = (Value.object members).under? (key :: rest) := by
        rw [under?_cons, under?_cons, member?_overlay_of_none hmissing]
    _ = base.under? (front ++ key :: rest) := by
        rw [under?_append, hmembers]
        rfl

/-- Where one of the two has no object at the end of the patch, the base is hidden. -/
theorem under?_overlay_hidden (hordered : patch.Ordered) (hends : patch.EndsAt path front)
    (hnone : patch.under? path = none) (h : ¬ (patch.ObjectAt front ∧ base.ObjectAt front)) :
    (base.overlay patch).under? path = none := by
  obtain ⟨last, key, rest, rfl, hlast, hmissing⟩ := hends.missing hnone
  have hover : laidOver (base.under? front) last = last := by
    cases hobject : last.isObject with
    | false => exact laidOver_of_not_object _ hobject
    | true =>
      have hpatch := objectAt_of_isObject hlast hobject
      exact laidOver_of_not_objectAt (fun hbase => h ⟨hpatch, hbase⟩) last
  rw [under?_overlay_append base hordered hlast, hover, under?_cons, hmissing]
  rfl

/-! ## Order -/

mutual
/-- Laying ordered documents over each other keeps them ordered. -/
theorem Ordered.overlay : ∀ {patch base : Value}, patch.Ordered → base.Ordered →
    (base.overlay patch).Ordered
  | .object _, .object _, .object _ hinner, hbase => Ordered.overlayMembers hinner hbase
  | .object _, .null, hpatch, _ | .object _, .bool _, hpatch, _ | .object _, .number _, hpatch, _
  | .object _, .string _, hpatch, _ | .object _, .array _, hpatch, _ => hpatch
  | .null, _, hpatch, _ | .bool _, _, hpatch, _ | .number _, _, hpatch, _ | .string _, _, hpatch, _
  | .array _, _, hpatch, _ => hpatch

theorem Ordered.overlayMembers : ∀ {upper members : List (String × Value)},
    (∀ member ∈ upper, member.2.Ordered) → (Value.object members).Ordered →
      (Value.object (overlayMembers members upper)).Ordered
  | [], _, _, hbase => hbase
  | (key, value) :: upper, members, hinner, hbase => by
    obtain ⟨hvalue, hrest⟩ := List.forall_mem_cons.1 hinner
    have hover : (laidOver (Entries.get? members key) value).Ordered := by
      cases hbelow : Entries.get? members key with
      | none => exact hvalue
      | some below => exact hvalue.overlay (hbase.member hbelow)
    rw [overlayMembers_cons]
    exact Ordered.overlayMembers hrest (hbase.put key hover)
end

/-! ## Top theorem -/

/-- What an overlay has at each path of keys, whatever the base is. -/
theorem overlay_pathLaw (base : Value) {patch : Value} (hordered : patch.Ordered)
    (path : List String) : PathLaw base patch (base.overlay patch) path := by
  constructor
  · intro value hvalue hplain
    rw [under?_overlay base hordered hvalue, laidOver_of_not_object _ hplain]
  · intro below value hbelow hvalue _ _
    rw [under?_overlay base hordered hvalue, hbelow]
    rfl
  · intro value hvalue _ hbase
    rw [under?_overlay base hordered hvalue, laidOver_of_not_objectAt hbase]
  · intro hnone
    obtain ⟨front, hends⟩ := exists_endsAt patch path
    exact ⟨front, hends, fun h => under?_overlay_kept hordered hends hnone h.1 h.2,
      under?_overlay_hidden hordered hends hnone⟩

def courseSchema : Value :=
  .object [
    ("properties", .object [
      ("seats", .object [("type", .string "integer")]),
      ("title", .object [("type", .string "string")])]),
    ("required", .array [.string "title"])]

/-- What more there is to say of courses. -/
def seatsPatch : Value :=
  .object [
    ("properties", .object [("seats", .object [("minimum", .ofInt 1)])]),
    ("required", .array [.string "code"])]

/-- The type of seats stays as it is below what the patch says of them, and the list of what is
required is hidden. -/
theorem overlay_pathLaw_of_course :
    seatsPatch.Ordered ∧ seatsPatch.under? ["properties", "seats", "type"] = none ∧
      (∀ path, PathLaw courseSchema seatsPatch (courseSchema.overlay seatsPatch) path) ∧
      (courseSchema.overlay seatsPatch).under? ["properties", "seats", "type"] =
        some (.string "integer") ∧
      (courseSchema.overlay seatsPatch).under? ["required"] = some (.array [.string "code"]) := by
  have hseats : (Value.object [("minimum", .ofInt 1)]).Ordered :=
    .object (List.pairwise_singleton _ _) (List.forall_mem_singleton.2 (.number _))
  have hproperties : (Value.object [("seats", .object [("minimum", .ofInt 1)])]).Ordered :=
    .object (List.pairwise_singleton _ _) (List.forall_mem_singleton.2 hseats)
  have hrequired : (Value.array [.string "code"]).Ordered :=
    .array (List.forall_mem_singleton.2 (.string _))
  have hordered : seatsPatch.Ordered :=
    .object (List.pairwise_pair.2 (by decide))
      (List.forall_mem_cons.2 ⟨hproperties, List.forall_mem_singleton.2 hrequired⟩)
  have hlaw := overlay_pathLaw courseSchema hordered
  exact ⟨hordered, rfl, hlaw, rfl, (hlaw ["required"]).plain _ rfl rfl⟩

end Schemata.Json.Value
