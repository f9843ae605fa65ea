import Schemata.Digest.Fingerprint
import Schemata.Proofs.Json.Overlay
import Schemata.Proofs.Json.Readable
import Schemata.Proofs.JsonSchema.PercentSigns

/-!
# What a compilation is fingerprinted by

The bytes behind the fingerprint of a compilation tell which generation and which document it was. The
generation has eight bytes, whatever it is, and the text behind them is the text of one document. Nothing
else about the document counts: where its objects hold the same members, the order in which the members
have come makes no difference.

    canonical v = canonical w ↔ v and w are the same, with objects as maps   (canonical_eq_iff)
    members in another order → the same                                           (Same.of_perm)
    the bytes are equal ↔ the generations are, and the documents are the same
                                                                     (compilationBytes_eq_iff)
-/

namespace Schemata

open Json (Value)

/-- Two values that are there together, and are related where they are, are the same after a change that
makes related values the same. -/
theorem map_eq_map_of_isSome {α β : Type} {f : α → β} {a b : Option α} (hsome : a.isSome = b.isSome)
    (h : ∀ value value', a = some value → b = some value' → f value = f value') :
    a.map f = b.map f := by
  cases a with
  | none =>
    cases b with
    | none => rfl
    | some value' => cases hsome
  | some value =>
    cases b with
    | none => cases hsome
    | some value' => exact congrArg some (h value value' rfl rfl)

namespace Json.Value

/-! ## Algorithm -/

/-- Documents that are the same if objects are maps: their members count by their keys, in whatever
order they are, and of several with one key the last one does. An integer and a double are different. -/
inductive Same : Value → Value → Prop
  | null : Same .null .null
  | bool (value : Bool) : Same (.bool value) (.bool value)
  | number (value : Number) : Same (.number value) (.number value)
  | string (value : String) : Same (.string value) (.string value)
  | array {items items' : List Value} (hlength : items.length = items'.length)
      (hitems : ∀ (i : Nat) item item', items[i]? = some item → items'[i]? = some item' →
        Same item item') :
      Same (.array items) (.array items')
  | object {members members' : List (String × Value)}
      (hkeys : ∀ key, (Entries.last? members key).isSome = (Entries.last? members' key).isSome)
      (hvalues : ∀ key value value', Entries.last? members key = some value →
        Entries.last? members' key = some value' → Same value value') :
      Same (.object members) (.object members')

/-! ## Canonical documents -/

theorem canonicalItems_eq (items : List Value) : canonicalItems items = items.map canonical := by
  induction items with
  | nil => rfl
  | cons item items ih => rw [canonicalItems, ih, List.map_cons]

theorem canonicalMembers_eq (members : List (String × Value)) :
    canonicalMembers members = Entries.mapValues canonical members := by
  induction members with
  | nil => rfl
  | cons member members ih =>
    rw [canonicalMembers, ih]
    rfl

theorem canonical_array (items : List Value) :
    (Value.array items).canonical = .array (items.map canonical) := by
  rw [canonical, canonicalItems_eq]

theorem canonical_object (members : List (String × Value)) :
    (Value.object members).canonical =
      .object (Entries.ofPairs (Entries.mapValues canonical members)) := by
  rw [canonical, canonicalMembers_eq, ofMembers]

theorem get?_canonicalMembers (members : List (String × Value)) (key : String) :
    Entries.get? (Entries.ofPairs (Entries.mapValues canonical members)) key =
      (Entries.last? members key).map canonical := by
  rw [Entries.get?_ofPairs, Entries.last?_map]

theorem Same.canonical_eq {v w : Value} (h : v.Same w) : v.canonical = w.canonical := by
  induction h with
  | null => rfl
  | bool value => rfl
  | number value => rfl
  | string value => rfl
  | @array items items' hlength hitems ih =>
    rw [canonical_array, canonical_array]
    refine congrArg Value.array (List.ext_getElem? fun i => ?_)
    rw [List.getElem?_map, List.getElem?_map]
    refine map_eq_map_of_isSome ?_ (ih i)
    rw [Option.isSome_eq_isSome, List.getElem?_eq_none_iff, List.getElem?_eq_none_iff, hlength]
  | @object members members' hkeys hvalues ih =>
    rw [canonical_object, canonical_object]
    refine congrArg Value.object (Entries.ofPairs_eq_iff.2 fun key => ?_)
    rw [Entries.last?_map, Entries.last?_map]
    exact map_eq_map_of_isSome (hkeys key) (ih key)

theorem sameKind_of_canonical {v w : Value} (h : v.canonical = w.canonical) : SameKind v w := by
  rcases v with _ | (_ | _) | n | s | items | members <;>
    rcases w with _ | (_ | _) | m | t | items' | members' <;>
    first
    | constructor
    | simp [canonical, ofMembers] at h

theorem same_of_canonical {v w : Value} (h : v.canonical = w.canonical) : v.Same w := by
  have hkind := sameKind_of_canonical h
  induction v using Value.induction generalizing w with
  | null =>
    cases hkind
    exact .null
  | bool b =>
    cases hkind
    exact .bool b
  | number n =>
    cases hkind
    cases h
    exact .number n
  | string s =>
    cases hkind
    cases h
    exact .string s
  | array items ih =>
    cases hkind with
    | array items items' =>
      rw [canonical_array, canonical_array] at h
      have hitems := Value.array.inj h
      refine .array (by simpa using congrArg List.length hitems) fun i item item' hi hi' => ?_
      have hat := congrArg (·[i]?) hitems
      simp only [List.getElem?_map, hi, hi', Option.map_some, Option.some.injEq] at hat
      exact ih item (List.mem_of_getElem? hi) hat (sameKind_of_canonical hat)
  | object members ih =>
    cases hkind with
    | object members members' =>
      rw [canonical_object, canonical_object] at h
      have hlast := Entries.ofPairs_eq_iff.1 (Value.object.inj h)
      simp only [Entries.last?_map] at hlast
      refine .object (fun key => ?_) fun key value value' hv hv' => ?_
      · have hsome := congrArg Option.isSome (hlast key)
        rwa [Option.isSome_map, Option.isSome_map] at hsome
      · have hat := hlast key
        rw [hv, hv', Option.map_some, Option.map_some, Option.some.injEq] at hat
        exact ih (key, value) (Entries.mem_of_last? hv) hat (sameKind_of_canonical hat)

/-- Documents have the same canonical form exactly if they are the same, with objects as maps. -/
theorem canonical_eq_iff {v w : Value} : v.canonical = w.canonical ↔ v.Same w :=
  ⟨same_of_canonical, Same.canonical_eq⟩

/-- No double comes into a document with its canonical form. -/
theorem mem_doubles_of_canonical {document : Value} {x : Binary64}
    (h : x ∈ document.canonical.doubles) : x ∈ document.doubles := by
  induction document using Value.induction with
  | null => exact h
  | bool b => exact h
  | number n => exact h
  | string s => exact h
  | array items ih =>
    rw [canonical_array, doubles, mem_doublesItems] at h
    obtain ⟨item', hmem, hx⟩ := h
    obtain ⟨item, hitem, rfl⟩ := List.mem_map.1 hmem
    exact mem_doublesItems.2 ⟨item, hitem, ih item hitem hx⟩
  | object members ih =>
    rw [canonical_object, doubles, mem_doublesMembers] at h
    obtain ⟨⟨key, value'⟩, hmem, hx⟩ := h
    -- what the map has under a key is the last of its members
    have hget := Entries.get?_of_mem (Entries.ascending_ofPairs _) hmem
    rw [get?_canonicalMembers, Option.map_eq_some_iff] at hget
    obtain ⟨value, hlast, rfl⟩ := hget
    have hmember := Entries.mem_of_last? hlast
    exact mem_doublesMembers.2 ⟨(key, value), hmember, ih (key, value) hmember hx⟩

/-- The order of members with different keys does not count. -/
theorem Same.of_perm {members members' : List (String × Value)} (honce : (members.map (·.1)).Nodup)
    (hperm : members.Perm members') : (Value.object members).Same (.object members') := by
  apply canonical_eq_iff.1
  have honce' : (members'.map (·.1)).Nodup := (hperm.map _).nodup_iff.1 honce
  rw [canonical_object, canonical_object]
  refine congrArg Value.object (Entries.ofPairs_eq_iff.2 fun key => ?_)
  rw [Entries.last?_map, Entries.last?_map]
  refine congrArg (Option.map canonical) (Option.ext fun value => ?_)
  rw [Entries.last?_eq_some_iff honce, Entries.last?_eq_some_iff honce', hperm.mem_iff]

end Json.Value

namespace Fingerprint

/-! ## Bytes -/

theorem length_bigEndian (n value : Nat) : (Digest.bigEndian n value).length = n := by
  induction n with
  | zero => rfl
  | succ n ih => rw [Digest.bigEndian, List.length_cons, ih]

theorem mod_eq_of_bigEndian {n value value' : Nat}
    (h : Digest.bigEndian n value = Digest.bigEndian n value') :
    value % Nat.pow 256 n = value' % Nat.pow 256 n := by
  induction n with
  | zero =>
    rw [show Nat.pow 256 0 = 1 from rfl, Nat.mod_one, Nat.mod_one]
  | succ n ih =>
    unfold Digest.bigEndian at h
    obtain ⟨hfirst, hrest⟩ := List.cons.inj h
    have hdigit := congrArg UInt8.toNat hfirst
    rw [UInt8.toNat_ofNat', UInt8.toNat_ofNat'] at hdigit
    have hsplit : ∀ value, value % Nat.pow 256 (n + 1) =
        value % Nat.pow 256 n + Nat.pow 256 n * (value / Nat.pow 256 n % 256) :=
      fun value => Nat.mod_pow_succ
    rw [hsplit, hsplit, ih hrest]
    exact congrArg (value' % Nat.pow 256 n + Nat.pow 256 n * ·) hdigit

/-- Numbers of so many bytes are told apart by them. -/
theorem bigEndian_inj {n value value' : Nat} (hvalue : value < Nat.pow 256 n)
    (hvalue' : value' < Nat.pow 256 n) (h : Digest.bigEndian n value = Digest.bigEndian n value') :
    value = value' := by
  have hmod := mod_eq_of_bigEndian h
  rwa [Nat.mod_eq_of_lt hvalue, Nat.mod_eq_of_lt hvalue'] at hmod

theorem textBytes_inj {text text' : String} (h : textBytes text = textBytes text') : text = text' := by
  unfold textBytes at h
  rw [JsonSchema.UriReference.toList_bytes, JsonSchema.UriReference.toList_bytes] at h
  exact String.toByteArray_inj.1 (ByteArray.ext (Array.toList_inj.1 h))

/-! ## Top theorem -/

/-- Whatever the generations are, of 64 bits, and whatever the documents are: the bytes that stand for a
document compiled under a generation are those for another one exactly if the generations are equal and
the documents are the same, with objects as maps. So the order in which members have come into an object
does not count, and everything else does. This takes for granted that the doubles of the two documents are
written differently if they are different. -/
theorem compilationBytes_eq_iff {generation generation' : Nat} {first second : Value}
    (hgeneration : generation < Nat.pow 2 64) (hgeneration' : generation' < Nat.pow 2 64)
    (hwritten : {x | x ∈ first.doubles ++ second.doubles}.InjOn Binary64.scientific) :
    compilationBytes generation first = compilationBytes generation' second ↔
      generation = generation' ∧ first.Same second := by
  unfold compilationBytes documentBytes
  constructor
  · intro h
    obtain ⟨hbytes, htexts⟩ := List.append_inj h (by rw [length_bigEndian, length_bigEndian])
    have hrange : Nat.pow 2 64 = Nat.pow 256 8 := rfl
    rw [hrange] at hgeneration hgeneration'
    refine ⟨bigEndian_inj hgeneration hgeneration' hbytes, ?_⟩
    have hcanonical : {x | x ∈ first.canonical.doubles ++ second.canonical.doubles}.InjOn
        Binary64.scientific := by
      refine hwritten.mono fun x hx => ?_
      rcases List.mem_append.1 hx with hx | hx
      · exact List.mem_append_left _ (Json.Value.mem_doubles_of_canonical hx)
      · exact List.mem_append_right _ (Json.Value.mem_doubles_of_canonical hx)
    exact Json.Value.canonical_eq_iff.1 (Json.compact_inj hcanonical (textBytes_inj htexts))
  · rintro ⟨rfl, hsame⟩
    rw [Json.Value.canonical_eq_iff.2 hsame]

/-- Two members in either order, one of them half of one, give the same bytes. With `1.0` in place of
`1` the bytes are others. -/
theorem compilationBytes_eq_iff_of_members :
    compilationBytes 3 (.object [("b", .ofInt 1), ("a", .number (.double ⟨0x3FE0000000000000⟩))]) =
        compilationBytes 3 (.object [("a", .number (.double ⟨0x3FE0000000000000⟩)), ("b", .ofInt 1)]) ∧
      compilationBytes 3 (.object [("b", .ofInt 1), ("a", .number (.double ⟨0x3FE0000000000000⟩))]) ≠
        compilationBytes 3 (.object [("a", .number (.double ⟨0x3FE0000000000000⟩)),
          ("b", .number (.double ⟨0x3FF0000000000000⟩))]) := by
  have hwritten : ∀ {doubles : List Binary64},
      doubles ⊆ [⟨0x3FE0000000000000⟩, ⟨0x3FF0000000000000⟩] →
        {x | x ∈ doubles}.InjOn Binary64.scientific := by
    intro doubles hsubset x hx y hy heq
    have hne : Binary64.scientific ⟨0x3FE0000000000000⟩ ≠ Binary64.scientific ⟨0x3FF0000000000000⟩ := by
      decide +kernel
    have hx' := hsubset hx
    have hy' := hsubset hy
    simp only [List.mem_cons, List.not_mem_nil, or_false] at hx' hy'
    rcases hx' with rfl | rfl
    · rcases hy' with rfl | rfl
      · rfl
      · exact absurd heq hne
    · rcases hy' with rfl | rfl
      · exact absurd heq.symm hne
      · rfl
  constructor
  · rw [compilationBytes_eq_iff (by decide) (by decide) (hwritten (by decide))]
    exact ⟨rfl, Json.Value.Same.of_perm (by decide) (List.Perm.swap _ _ _)⟩
  · rw [ne_eq, compilationBytes_eq_iff (by decide) (by decide) (hwritten (by decide))]
    rintro ⟨-, hsame⟩
    cases hsame with
    | object hkeys hvalues =>
      have hnumbers := hvalues "b" _ _ rfl rfl
      cases hnumbers

end Fingerprint

end Schemata
