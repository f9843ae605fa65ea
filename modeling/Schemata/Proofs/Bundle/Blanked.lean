import Mathlib.Data.List.Forall2
import Schemata.Keyword
import Schemata.Proofs.Bundle.Closure
import Schemata.Proofs.Bundle.Completion
import Schemata.Proofs.Bundle.SelfContained

/-!
# Blanked documents

Two documents that are the same, but for some data in the first that is `null` in the second. If
there is nothing to turn in the data, bundling does not see the difference: it asks for the same
copies under the same keys, fails with the same failure, and its results differ in the data only.

    turning changes nothing in v ↔ there is nothing to turn in v     (mapReferences_turn_eq_self_iff)
    there is nothing to turn in v → rewrite scope v s = .ok (v, s)                 (rewrite_unturned)
    rewriting blanked documents ends alike                                          (rewrite_blanked)
    bundling blanked documents ends alike                                            (bundle_blanked)
-/

namespace Schemata.Bundle

open Json (Value)

/-! ## Algorithm -/

mutual
/-- One document is another one with `null` in the place of some data, here and there. -/
inductive Blanked (data : Value) : Value → Value → Prop
  | null : Blanked data .null .null
  | bool (value : Bool) : Blanked data (.bool value) (.bool value)
  | number (value : Json.Number) : Blanked data (.number value) (.number value)
  | string (value : String) : Blanked data (.string value) (.string value)
  | array {items items' : List Value} (h : BlankedItems data items items') :
      Blanked data (.array items) (.array items')
  | object {members members' : List (String × Value)} (h : BlankedMembers data members members') :
      Blanked data (.object members) (.object members')

/-- Items with `null` in the place of some data inside them. -/
inductive BlankedItems (data : Value) : List Value → List Value → Prop
  | nil : BlankedItems data [] []
  | cons {item item' : Value} {items items' : List Value} (hitem : Blanked data item item')
      (hitems : BlankedItems data items items') :
      BlankedItems data (item :: items) (item' :: items')

/-- Members with `null` in the place of some data among them or inside them. -/
inductive BlankedMembers (data : Value) : List (String × Value) → List (String × Value) → Prop
  | nil : BlankedMembers data [] []
  | cons (name : String) {member member' : Value} {members members' : List (String × Value)}
      (hmember : Blanked data member member') (hmembers : BlankedMembers data members members') :
      BlankedMembers data ((name, member) :: members) ((name, member') :: members')
  | data {name : String} {members members' : List (String × Value)} (hname : name ∈ dataKeys)
      (hmembers : BlankedMembers data members members') :
      BlankedMembers data ((name, data) :: members) ((name, .null) :: members')
end

/-- Registered schemas, with `null` in the place of some data in their documents. -/
structure BlankedResolver (data : Value) (resolver resolver' : Resolver) : Prop where
  names : resolver.names = resolver'.names
  resolve : ∀ name, EndsAlike (Blanked data) (resolver.resolve name) (resolver'.resolve name)

/-- Copies with `null` in the place of some data inside them. -/
abbrev BlankedCopies (data : Value) : List (String × Value) → List (String × Value) → Prop :=
  List.Forall₂ fun copy copy' => copy.1 = copy'.1 ∧ Blanked data copy.2 copy'.2

/-- Results that differ in data only, and have met the same. -/
def BlankedResult (data : Value) (result result' : Value × State) : Prop :=
  Blanked data result.1 result'.1 ∧ result.2 = result'.2

/-- Nothing in a document is turned: its references name no schema, and in a copy all of them are
anchors. -/
def Unturned (here : Option String) (document : Value) : Prop :=
  ∀ reference ∈ visited document, Text.before '#' reference = "" ∧
    (here ≠ none → IsAnchor (Text.behind '#' reference))

/-! ## Nothing to turn -/

mutual
theorem mapReferences_of_fixed {f : String → String} :
    ∀ {value : Value}, (∀ reference ∈ visited value, f reference = reference) →
      mapReferences f value = value
  | .object _, h => congrArg Value.object (mapReferencesMembers_of_fixed h)
  | .array _, h => congrArg Value.array (mapReferencesItems_of_fixed h)
  | .null, _ | .bool _, _ | .number _, _ | .string _, _ => rfl

theorem mapReferencesItems_of_fixed {f : String → String} :
    ∀ {items : List Value}, (∀ reference ∈ visitedItems items, f reference = reference) →
      mapReferencesItems f items = items
  | [], _ => rfl
  | item :: items, h => by
    rw [visitedItems, List.forall_mem_append] at h
    rw [mapReferencesItems, mapReferences_of_fixed h.1, mapReferencesItems_of_fixed h.2]

theorem mapReferencesMembers_of_fixed {f : String → String} :
    ∀ {members : List (String × Value)},
      (∀ reference ∈ visitedMembers members, f reference = reference) →
        mapReferencesMembers f members = members
  | [], _ => rfl
  | (name, member) :: members, h => by
    rw [visitedMembers_cons, List.forall_mem_append] at h
    rw [mapReferencesMembers, mapReferencesMembers_of_fixed h.2]
    have hmember := h.1
    unfold visitedMember at hmember
    split
    · next hname =>
      rw [if_pos hname] at hmember
      cases member with
      | string reference => rw [mapReference, hmember reference (List.mem_singleton.2 rfl)]
      | _ => rfl
    · next hname =>
      rw [if_neg hname] at hmember
      rw [mapReferences_of_fixed hmember]
end

/-- A document is the same with its references changed if and only if each of them is. -/
theorem mapReferences_eq_self_iff {f : String → String} {value : Value} :
    mapReferences f value = value ↔ ∀ reference ∈ visited value, f reference = reference := by
  constructor
  · intro h
    have hreferences := visited_mapReferences f value
    rw [h] at hreferences
    exact List.map_inj_left.1 (hreferences.symm.trans (List.map_id _).symm)
  · exact mapReferences_of_fixed

/-- Turning references leaves a document alone if and only if there is nothing to turn in it. -/
theorem mapReferences_turn_eq_self_iff {rootName : String} {key : String → String}
    {here : Option String} {value : Value} :
    mapReferences (turn rootName key here) value = value ↔ Unturned here value := by
  rw [mapReferences_eq_self_iff]
  exact forall₂_congr fun reference _ => turn_eq_self_iff

theorem Unturned.selfContained {here : Option String} {value : Value} (h : Unturned here value) :
    SelfContained value :=
  fun reference hreference => (h reference hreference).1

theorem unturned_none_iff {value : Value} : Unturned none value ↔ SelfContained value :=
  ⟨Unturned.selfContained, fun h reference hreference =>
    ⟨h reference hreference, fun hnone => absurd rfl hnone⟩⟩

theorem SelfContained.foreignTargets {value : Value} (h : SelfContained value) (rootName : String) :
    foreignTargets rootName (visited value) = [] := by
  rw [Bundle.foreignTargets, List.filter_eq_nil_iff]
  intro target htarget
  obtain ⟨reference, hreference, rfl⟩ := List.mem_map.1 htarget
  rw [h reference hreference]
  exact Bool.false_ne_true

/-- A document with nothing to turn is rewritten to itself, and asks for nothing. -/
theorem rewrite_unturned {scope : Scope} {value : Value} (h : Unturned scope.key value)
    (state : State) : rewrite scope value state = .ok (value, state) := by
  have hnone := h.selfContained.foreignTargets scope.rootName
  cases hrewrite : rewrite scope value state with
  | error failure =>
    obtain ⟨target, htarget, -⟩ := rewrite_error hrewrite
    rw [hnone] at htarget
    cases htarget
  | ok result =>
    have hstate := (rewrite_asks hrewrite).state
    rw [hnone] at hstate
    have hvalue := rewrite_turned hrewrite (.refl result.2.keys)
    rw [mapReferences_turn_eq_self_iff.2 h] at hvalue
    rw [← hvalue, ← show result.2 = state from hstate]

/-! ## Blanked documents -/

variable {data : Value} {rootName : String} {resolver resolver' : Resolver}

mutual
theorem Blanked.refl (data : Value) : ∀ value, Blanked data value value
  | .object members => .object (BlankedMembers.refl data members)
  | .array items => .array (BlankedItems.refl data items)
  | .null => .null
  | .bool value => .bool value
  | .number value => .number value
  | .string value => .string value

theorem BlankedItems.refl (data : Value) : ∀ items, BlankedItems data items items
  | [] => .nil
  | item :: items => .cons (Blanked.refl data item) (BlankedItems.refl data items)

theorem BlankedMembers.refl (data : Value) : ∀ members, BlankedMembers data members members
  | [] => .nil
  | (name, member) :: members =>
    .cons name (Blanked.refl data member) (BlankedMembers.refl data members)
end

theorem BlankedMembers.keys {members members' : List (String × Value)}
    (h : BlankedMembers data members members') : Entries.keys members = Entries.keys members' := by
  induction members generalizing members' with
  | nil => cases h; rfl
  | cons head members ih =>
    cases h with
    | cons name hmember hmembers => exact congrArg (name :: ·) (ih hmembers)
    | data hname hmembers => exact congrArg (_ :: ·) (ih hmembers)

/-- What is no data is there in both documents or in none. -/
theorem BlankedMembers.get? {members members' : List (String × Value)}
    (h : BlankedMembers data members members') {name : String} (hname : name ∉ dataKeys) :
    (Entries.get? members name = none ∧ Entries.get? members' name = none) ∨
      ∃ member member', Entries.get? members name = some member ∧
        Entries.get? members' name = some member' ∧ Blanked data member member' := by
  induction members generalizing members' with
  | nil => cases h; exact Or.inl ⟨rfl, rfl⟩
  | cons head members ih =>
    cases h with
    | @cons other member member' _ _ hmember hmembers =>
      rw [Entries.get?_cons, Entries.get?_cons]
      by_cases hother : other = name
      · rw [if_pos hother, if_pos hother]
        exact Or.inr ⟨member, member', rfl, rfl, hmember⟩
      · rw [if_neg hother, if_neg hother]
        exact ih hmembers
    | @data other _ _ hdata hmembers =>
      have hother : other ≠ name := by rintro rfl; exact hname hdata
      rw [Entries.get?_cons, Entries.get?_cons, if_neg hother, if_neg hother]
      exact ih hmembers

theorem BlankedMembers.put {members members' : List (String × Value)}
    (h : BlankedMembers data members members') (name : String) {member member' : Value}
    (hmember : Blanked data member member') :
    BlankedMembers data (Entries.put members name member) (Entries.put members' name member') := by
  induction members generalizing members' with
  | nil => cases h; exact .cons name hmember .nil
  | cons head members ih =>
    cases h with
    | cons other hold hmembers =>
      unfold Entries.put
      split
      · exact .cons name hmember hmembers
      · split
        · exact .cons name hmember (.cons other hold hmembers)
        · exact .cons other hold (ih hmembers)
    | data hdata hmembers =>
      unfold Entries.put
      split
      · exact .cons name hmember hmembers
      · split
        · exact .cons name hmember (.data hdata hmembers)
        · exact .data hdata (ih hmembers)

theorem BlankedMembers.without {members members' : List (String × Value)}
    (h : BlankedMembers data members members') (name : String) :
    BlankedMembers data (Entries.without members name) (Entries.without members' name) := by
  induction members generalizing members' with
  | nil => cases h; exact .nil
  | cons head members ih =>
    cases h with
    | cons other hold hmembers =>
      unfold Entries.without
      split
      · exact ih hmembers
      · exact .cons other hold (ih hmembers)
    | data hdata hmembers =>
      unfold Entries.without
      split
      · exact ih hmembers
      · exact .data hdata (ih hmembers)

theorem Blanked.withoutMember {value value' : Value} (h : Blanked data value value')
    (name : String) : Blanked data (value.withoutMember name) (value'.withoutMember name) := by
  cases h with
  | object hmembers => exact .object (hmembers.without name)
  | null => exact .null
  | bool value => exact .bool value
  | number value => exact .number value
  | string value => exact .string value
  | array hitems => exact .array hitems

theorem Blanked.existingKeys {value value' : Value} (h : Blanked data value value') :
    existingKeys value = existingKeys value' := by
  cases h with
  | object hmembers =>
    unfold Bundle.existingKeys Value.member?
    dsimp only
    rcases hmembers.get? (show "$defs" ∉ dataKeys by decide) with
      ⟨hnone, hnone'⟩ | ⟨defs, defs', hdefs, hdefs', hblanked⟩
    · rw [hnone, hnone']
    · rw [hdefs, hdefs']
      cases hblanked with
      | object hentries => exact hentries.keys
      | _ => rfl
  | _ => rfl

theorem BlankedMembers.withCopies {defs defs' : List (String × Value)}
    (h : BlankedMembers data defs defs') {copies copies' : List (String × Value)}
    (hcopies : BlankedCopies data copies copies') :
    BlankedMembers data (withCopies defs copies) (withCopies defs' copies') := by
  induction hcopies generalizing defs defs' with
  | nil => exact h
  | @cons copy copy' copies copies' hcopy _ ih =>
    obtain ⟨key, value⟩ := copy
    obtain ⟨key', value'⟩ := copy'
    obtain rfl : key = key' := hcopy.1
    exact ih (h.put key hcopy.2)

theorem Blanked.addCopies {value value' : Value} (h : Blanked data value value')
    {copies copies' : List (String × Value)} (hcopies : BlankedCopies data copies copies') :
    Blanked data (addCopies value copies) (addCopies value' copies') := by
  cases h with
  | @object members members' hmembers =>
    have hempty : copies.isEmpty = copies'.isEmpty := by cases hcopies <;> rfl
    unfold Bundle.addCopies
    dsimp only
    rw [← hempty]
    split
    · exact .object hmembers
    · rcases hmembers.get? (show "$defs" ∉ dataKeys by decide) with
        ⟨hnone, hnone'⟩ | ⟨defs, defs', hdefs, hdefs', hblanked⟩
      · rw [hnone, hnone']
        exact .object (hmembers.put "$defs" (.object (BlankedMembers.nil.withCopies hcopies)))
      · rw [hdefs, hdefs']
        cases hblanked with
        | object hentries =>
          exact .object (hmembers.put "$defs" (.object (hentries.withCopies hcopies)))
        | _ => exact .object hmembers
  | null => exact .null
  | bool value => exact .bool value
  | number value => exact .number value
  | string value => exact .string value
  | array hitems => exact .array hitems

/-! ## Blanked runs -/

/-- Rewriting a reference does not resolve anything. -/
theorem rewriteReference_resolver (hnames : resolver.names = resolver'.names) (key : Option String)
    (reference : String) (state : State) :
    rewriteReference ⟨rootName, key, resolver⟩ reference state =
      rewriteReference ⟨rootName, key, resolver'⟩ reference state := by
  unfold rewriteReference
  dsimp only
  rw [hnames]

theorem rewriteMember_blanked {key : Option String} (hnames : resolver.names = resolver'.names)
    (name : String) {member member' : Value} (h : Blanked data member member') {state : State}
    (hrewrite : EndsAlike (BlankedResult data) (rewrite ⟨rootName, key, resolver⟩ member state)
      (rewrite ⟨rootName, key, resolver'⟩ member' state)) :
    EndsAlike (BlankedResult data) (rewriteMember ⟨rootName, key, resolver⟩ name member state)
      (rewriteMember ⟨rootName, key, resolver'⟩ name member' state) := by
  unfold rewriteMember
  split
  · cases h with
    | string reference =>
      dsimp only
      rw [rewriteReference_resolver hnames]
      cases rewriteReference ⟨rootName, key, resolver'⟩ reference state with
      | error failure => exact .failed failure
      | ok turned => exact .ended ⟨.string turned.1, rfl⟩
    | null => exact .ended ⟨.null, rfl⟩
    | bool value => exact .ended ⟨.bool value, rfl⟩
    | number value => exact .ended ⟨.number value, rfl⟩
    | array hitems => exact .ended ⟨.array hitems, rfl⟩
    | object hmembers => exact .ended ⟨.object hmembers, rfl⟩
  · exact hrewrite

mutual
/-- Documents that differ in data with nothing to turn are rewritten alike. -/
theorem rewrite_blanked {key : Option String} (hnames : resolver.names = resolver'.names)
    (hdata : Unturned key data) : ∀ {value value' : Value} (state : State),
      Blanked data value value' →
      EndsAlike (BlankedResult data) (rewrite ⟨rootName, key, resolver⟩ value state)
        (rewrite ⟨rootName, key, resolver'⟩ value' state)
  | _, _, state, .object hmembers =>
    (rewriteMembers_blanked hnames hdata state hmembers).bind fun _ _ h =>
      .ended ⟨.object h.1, h.2⟩
  | _, _, state, .array hitems =>
    (rewriteItems_blanked hnames hdata state hitems).bind fun _ _ h => .ended ⟨.array h.1, h.2⟩
  | _, _, _, .null => .ended ⟨.null, rfl⟩
  | _, _, _, .bool value => .ended ⟨.bool value, rfl⟩
  | _, _, _, .number value => .ended ⟨.number value, rfl⟩
  | _, _, _, .string value => .ended ⟨.string value, rfl⟩

theorem rewriteItems_blanked {key : Option String} (hnames : resolver.names = resolver'.names)
    (hdata : Unturned key data) : ∀ {items items' : List Value} (state : State),
      BlankedItems data items items' →
      EndsAlike (fun result result' => BlankedItems data result.1 result'.1 ∧ result.2 = result'.2)
        (rewriteItems ⟨rootName, key, resolver⟩ items state)
        (rewriteItems ⟨rootName, key, resolver'⟩ items' state)
  | _, _, _, .nil => .ended ⟨.nil, rfl⟩
  | _, _, state, .cons hitem hitems => by
    unfold rewriteItems
    refine (rewrite_blanked hnames hdata state hitem).bind fun first first' hfirst => ?_
    dsimp only
    rw [← hfirst.2]
    exact (rewriteItems_blanked hnames hdata first.2 hitems).bind fun _ _ hrest =>
      .ended ⟨.cons hfirst.1 hrest.1, hrest.2⟩

theorem rewriteMembers_blanked {key : Option String} (hnames : resolver.names = resolver'.names)
    (hdata : Unturned key data) : ∀ {members members' : List (String × Value)} (state : State),
      BlankedMembers data members members' →
      EndsAlike (fun result result' => BlankedMembers data result.1 result'.1 ∧
          result.2 = result'.2)
        (rewriteMembers ⟨rootName, key, resolver⟩ members state)
        (rewriteMembers ⟨rootName, key, resolver'⟩ members' state)
  | _, _, _, .nil => .ended ⟨.nil, rfl⟩
  | _, _, state, .cons name hmember hmembers => by
    rw [rewriteMembers_cons, rewriteMembers_cons]
    refine (rewriteMember_blanked hnames name hmember
      (rewrite_blanked hnames hdata state hmember)).bind fun first first' hfirst => ?_
    rw [← hfirst.2]
    exact (rewriteMembers_blanked hnames hdata first.2 hmembers).bind fun _ _ hrest =>
      .ended ⟨.cons name hfirst.1 hrest.1, hrest.2⟩
  | _, _, state, @BlankedMembers.data _ name _ _ hname hmembers => by
    -- the data itself is left as it is, and so is what stands in its place
    have hkey : name ≠ "$ref" := by rintro rfl; exact absurd hname (by decide)
    have hkept : rewriteMember ⟨rootName, key, resolver⟩ name data state = .ok (data, state) := by
      unfold rewriteMember
      rw [if_neg hkey]
      exact rewrite_unturned hdata state
    have hnull : rewriteMember ⟨rootName, key, resolver'⟩ name .null state = .ok (.null, state) := by
      unfold rewriteMember
      rw [if_neg hkey]
      rfl
    rw [rewriteMembers_cons, rewriteMembers_cons, hkept, hnull]
    exact (rewriteMembers_blanked hnames hdata state hmembers).bind fun _ _ hrest =>
      .ended ⟨.data hname hrest.1, hrest.2⟩
end

theorem BlankedCopies.refl (data : Value) (copies : List (String × Value)) :
    BlankedCopies data copies copies :=
  List.forall₂_same.2 fun copy _ => ⟨rfl, Blanked.refl data copy.2⟩

/-- Schemas that differ in data with nothing to turn are copied alike. -/
theorem copyQueue_blanked (hresolver : BlankedResolver data resolver resolver')
    (hdata : ∀ key, Unturned (some key) data) (fuel : Nat) (state : State) :
    EndsAlike (BlankedCopies data) (copyQueue rootName resolver fuel state)
      (copyQueue rootName resolver' fuel state) := by
  induction fuel generalizing state with
  | zero => exact .ended .nil
  | succ fuel ih =>
    obtain ⟨keys, queue⟩ := state
    cases queue with
    | nil => exact .ended .nil
    | cons name queue =>
      rw [copyQueue_cons, copyQueue_cons]
      refine (hresolver.resolve name).bind fun document document' hdocument => ?_
      have hsource : Blanked data (copySource document) (copySource document') :=
        (hdocument.withoutMember "$id").withoutMember "$schema"
      refine (rewrite_blanked hresolver.names (hdata _) _ hsource).bind fun copy copy' hcopy => ?_
      rw [← hcopy.2]
      exact (ih copy.2).bind fun _ _ hrest => .ended (.cons ⟨rfl, hcopy.1⟩ hrest)

/-- A bundle is the rewritten document with the copies. -/
theorem bundle_eq_bind (rootName : String) (document : Value) (resolver : Resolver) :
    bundle rootName document resolver =
      (rewrite ⟨rootName, none, resolver⟩ (bundleSource document)
        ⟨DefKeys.start (existingKeys (bundleSource document)), []⟩).bind fun root =>
          (copyQueue rootName resolver (resolver.names.length + 1) root.2).bind fun copies =>
            .ok (addCopies root.1 copies) := rfl

/-- Documents that differ in data with nothing to turn are bundled alike, if copies are. -/
theorem bundle_blanked {document document' : Value} (hdocument : Blanked data document document')
    (hnames : resolver.names = resolver'.names) (hdata : Unturned none data)
    (hcopies : ∀ fuel state, EndsAlike (BlankedCopies data)
      (copyQueue rootName resolver fuel state) (copyQueue rootName resolver' fuel state)) :
    EndsAlike (Blanked data) (bundle rootName document resolver)
      (bundle rootName document' resolver') := by
  have hsource : Blanked data (bundleSource document) (bundleSource document') :=
    hdocument.withoutMember "$id"
  rw [bundle_eq_bind, bundle_eq_bind, hsource.existingKeys, ← hnames]
  refine (rewrite_blanked hnames hdata _ hsource).bind fun root root' hroot => ?_
  rw [← hroot.2]
  exact (hcopies _ root.2).bind fun _ _ h => .ended (hroot.1.addCopies h)

end Schemata.Bundle
