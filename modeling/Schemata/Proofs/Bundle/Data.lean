import Schemata.Proofs.Bundle.Blanked

/-!
# Data in a bundle

The values of `const`, `enum`, `examples` and `default` are data and not schemas. Bundling does not
tell them apart: it turns what looks like a reference in them. It leaves data alone exactly if there
is nothing to turn. A reference in the data of the bundled document stays as it is if it names no
schema, and one in the data of a copy only if it is an anchor besides.

    data with nothing to turn is in the bundle as it was                        (along?_unturned)
    data is left alone ↔ its references are local, and anchors in copies  (data_left_alone_iff)
-/

namespace Schemata.Bundle

open Json (Value)

/-! ## Algorithm -/

/-- Bundling leaves data of the document alone. With `null` in its place the document is bundled in
the same way: with the same failure, or with a result that differs in the data only. And where a
data keyword of the document has the data, the bundle has it too. -/
structure LeftAloneInDocument (rootName : String) (resolver : Resolver) (data : Value) : Prop where
  inert : ∀ document document', Blanked data document document' →
    EndsAlike (Blanked data) (bundle rootName document resolver)
      (bundle rootName document' resolver)
  kept : ∀ document out path name, bundle rootName document resolver = .ok out →
    name ∈ dataKeys → (∀ step ∈ (path ++ [name]).head?, step ∉ removed none) →
    document.along? (path ++ [name]) = some data → out.along? (path ++ [name]) = some data

/-- Bundling leaves data alone, in the document and in the schemas that are copied. With `null` in
its place, here and there in all of them, bundling does the same. And where a data keyword of the
document or of a copied schema has the data, the bundle has it at the place of this part. -/
structure LeftAlone (rootName : String) (data : Value) : Prop where
  document : ∀ resolver, LeftAloneInDocument rootName resolver data
  inert : ∀ document document' resolver resolver', Blanked data document document' →
    BlankedResolver data resolver resolver' →
    EndsAlike (Blanked data) (bundle rootName document resolver)
      (bundle rootName document' resolver')
  kept : ∀ document resolver out, TakesCopies document →
    bundle rootName document resolver = .ok out →
    ∃ key, IsBundle rootName document resolver key out ∧
      ∀ part source path name, IsPart rootName document resolver part source → name ∈ dataKeys →
        (∀ step ∈ (path ++ [name]).head?, step ∉ removed part) →
        source.along? (path ++ [name]) = some data →
        out.along? (place key part ++ (path ++ [name])) = some data

/-! ## Data in its place -/

variable {data : Value} {rootName : String} {resolver : Resolver} {document out : Value}

/-- Data with nothing to turn is in a document with turned references as it was. -/
theorem along?_unturned {f : String → String} (h : mapReferences f data = data) {name : String}
    (hname : name ≠ "$ref") {source : Value} {path : List String}
    (hdata : source.along? (path ++ [name]) = some data) :
    (mapReferences f source).along? (path ++ [name]) = some data := by
  induction path generalizing source with
  | nil =>
    rw [List.nil_append, Value.along?_cons] at hdata ⊢
    obtain ⟨child, hchild, hdata⟩ := Option.bind_eq_some_iff.1 hdata
    cases hdata
    rw [child?_mapReferences source hname, hchild]
    exact congrArg some h
  | cons step path ih =>
    rw [List.cons_append, Value.along?_cons] at hdata ⊢
    obtain ⟨child, hchild, hdata⟩ := Option.bind_eq_some_iff.1 hdata
    by_cases hstep : step = "$ref"
    · subst hstep
      rw [child?_mapReferences_ref, hchild]
      cases child with
      | string reference =>
        -- nothing is below a text
        cases path <;> cases hdata
      | _ => exact hdata
    · rw [child?_mapReferences source hstep, hchild]
      exact ih hdata

theorem existingKeys_mapReferences (f : String → String) (value : Value) :
    existingKeys (mapReferences f value) = existingKeys value := by
  unfold existingKeys
  rw [member?_mapReferences]
  cases value.member? "$defs" with
  | none => rfl
  | some defs =>
    rw [Option.map_some, turnMember, if_neg (by decide)]
    cases defs with
    | object entries =>
      show Entries.keys (mapReferencesMembers f entries) = Entries.keys entries
      induction entries with
      | nil => rfl
      | cons entry entries ih => exact congrArg (entry.1 :: ·) ih
    | _ => rfl

/-- The document of a bundle, with its references turned, and copies under new keys. -/
theorem bundle_ok_document (h : bundle rootName document resolver = .ok out) :
    ∃ (key : String → String) (copies : List (String × Value)),
      (∀ added ∈ copies.map (·.1), added ∉ existingKeys document) ∧
      out = addCopies (mapReferences (turn rootName key none) (bundleSource document)) copies := by
  obtain ⟨root, copies, names, keys, hroot, hcopied, -, rfl⟩ := bundle_ok h
  exact ⟨keys.keyOf, copies, hcopied.apart, by rw [rewrite_turned hroot hcopied.keeps]⟩

theorem addCopies_of_not_takesCopies (h : ¬ TakesCopies document)
    (copies : List (String × Value)) : addCopies document copies = document := by
  unfold addCopies
  split
  · next members =>
    split
    · rfl
    · split
      · next defs hdefs =>
        refine absurd ⟨members, rfl, fun value hvalue => ⟨defs, ?_⟩⟩ h
        rw [hvalue] at hdefs
        exact hdefs
      · rfl
  · rfl

/-- Copies change nothing about a value under a key that is not that of the definitions. -/
theorem along?_addCopies_append (copies : List (String × Value))
    (hapart : ∀ added ∈ copies.map (·.1), added ∉ existingKeys document) {path : List String}
    {name : String} (hname : name ≠ "$defs") {value : Value}
    (h : document.along? (path ++ [name]) = some value) :
    (addCopies document copies).along? (path ++ [name]) = some value := by
  by_cases htakes : TakesCopies document
  · cases path with
    | nil =>
      rw [List.nil_append, Value.along?_cons] at h ⊢
      rw [child?_addCopies_of_ne document copies hname]
      exact h
    | cons step path =>
      rw [List.cons_append] at h ⊢
      rw [htakes.along?_addCopies hapart h, standIn_cons]
      intro defs _ _ hend
      exact absurd hend (List.append_ne_nil_of_right_ne_nil path (List.cons_ne_nil name []))
  · rw [addCopies_of_not_takesCopies htakes]
    exact h

/-- What is along a definition is along its place. -/
theorem along?_of_definition? {key : String} {value : Value} (h : definition? out key = some value)
    (steps : List String) : out.along? ("$defs" :: key :: steps) = value.along? steps := by
  obtain ⟨defs, hdefs, hvalue⟩ := Option.bind_eq_some_iff.1 h
  have hchild : ∀ {document inner : Value} {name : String}, document.member? name = some inner →
      document.child? name = some inner := by
    intro document inner name hmember
    cases document with
    | object members => exact hmember
    | _ => cases hmember
  rw [Value.along?_cons, hchild hdefs]
  show defs.along? (key :: steps) = _
  rw [Value.along?_cons, hchild hvalue]
  rfl

theorem ne_of_mem_dataKeys {name : String} (h : name ∈ dataKeys) :
    name ≠ "$ref" ∧ name ≠ "$defs" := by
  constructor
  · rintro rfl
    exact absurd h (by decide)
  · rintro rfl
    exact absurd h (by decide)

/-! ## Data of the document -/

/-- Data that names no schema is left alone in the document. -/
theorem SelfContained.leftAlone (h : SelfContained data) (rootName : String) (resolver : Resolver) :
    LeftAloneInDocument rootName resolver data := by
  have hdata : Unturned none data := unturned_none_iff.2 h
  refine ⟨fun document document' hdocument => ?_, fun document out path name hout hname hhead
    hplace => ?_⟩
  · exact bundle_blanked hdocument rfl hdata fun fuel state => .refl (BlankedCopies.refl data) _
  · obtain ⟨href, hdefs⟩ := ne_of_mem_dataKeys hname
    obtain ⟨key, copies, hapart, rfl⟩ := bundle_ok_document hout
    have hsource : (bundleSource document).along? (path ++ [name]) = some data := by
      rw [← hplace]
      cases path with
      | nil => exact along?_leftOf (hhead _ rfl) _ document
      | cons step path => exact along?_leftOf (hhead _ rfl) _ document
    refine along?_addCopies_append copies ?_ hdefs
      (along?_unturned (mapReferences_turn_eq_self_iff.2 hdata) href hsource)
    rw [existingKeys_mapReferences, existingKeys_bundleSource]
    exact hapart

/-- Data is left alone in the document only if it names no schema: as a constant it shows what is
turned in it. -/
theorem LeftAloneInDocument.selfContained (h : LeftAloneInDocument rootName resolver data) :
    SelfContained data := by
  have hblank : bundle rootName (.object [("const", .null)]) resolver =
      .ok (.object [("const", .null)]) := rfl
  have halike := h.inert (.object [("const", data)]) (.object [("const", .null)])
    (.object (.data (by decide) .nil))
  rw [hblank] at halike
  cases hout : bundle rootName (.object [("const", data)]) resolver with
  | error failure => rw [hout] at halike; cases halike
  | ok out =>
    have hkept := h.kept _ out [] "const" hout (by decide) (by decide) rfl
    obtain ⟨key, copies, -, rfl⟩ := bundle_ok_document hout
    rw [List.nil_append, Value.along?_cons, child?_addCopies_of_ne _ copies (by decide)] at hkept
    exact unturned_none_iff.1 (mapReferences_turn_eq_self_iff.1 (Option.some.inj hkept))

/-! ## Data of copies -/

theorem Unturned.of_some {key : String} (h : Unturned (some key) data) (here : Option String) :
    Unturned here data :=
  fun reference hreference =>
    ⟨(h reference hreference).1, fun _ => (h reference hreference).2 (Option.some_ne_none key)⟩

/-- Data with nothing to turn in a copy is left alone in the document and in copies. -/
theorem Unturned.leftAlone {key : String} (h : Unturned (some key) data) (rootName : String) :
    LeftAlone rootName data := by
  have hdocument : ∀ resolver, LeftAloneInDocument rootName resolver data :=
    h.selfContained.leftAlone rootName
  refine ⟨hdocument, fun document document' resolver resolver' hdocuments hresolver => ?_,
    fun document resolver out htakes hout => ?_⟩
  · exact bundle_blanked hdocuments hresolver.names (h.of_some none)
      (copyQueue_blanked hresolver fun _ => h.of_some _)
  · obtain ⟨keyOf, hbundle⟩ := isBundle_of_bundle htakes hout
    refine ⟨keyOf, hbundle, fun part source path name hpart hname hhead hplace => ?_⟩
    cases hpart with
    | root => exact (hdocument resolver).kept document out path name hout hname hhead hplace
    | @copy copied _ hneeded hresolve =>
      obtain ⟨source', hresolve', hdefinition⟩ := hbundle.copies copied hneeded
      rw [hresolve] at hresolve'
      cases hresolve'
      have hsource : (copySource source).along? (path ++ [name]) = some data := by
        rw [← hplace]
        cases path with
        | nil => exact along?_leftOf (hhead _ rfl) _ source
        | cons step path => exact along?_leftOf (hhead _ rfl) _ source
      show out.along? ("$defs" :: keyOf copied :: (path ++ [name])) = some data
      rw [along?_of_definition? hdefinition]
      exact along?_unturned (mapReferences_turn_eq_self_iff.2 (h.of_some _))
        (ne_of_mem_dataKeys hname).1 hsource

/-- A name that is not empty, has no fragment and is not the name of the document. -/
def otherName (rootName : String) : String := if rootName = "a" then "b" else "a"

/-- A schema whose data is a constant, and nothing else that is registered. -/
def constResolver (rootName : String) (data : Value) : Resolver where
  names := [otherName rootName]
  resolve _ := .ok (.object [("const", data)])

/-- A document that refers to this schema. -/
def referenceTo (name : String) : Value := .object [("$ref", .string name)]

theorem targets_referenceTo (rootName : String) :
    targets rootName (bundleSource (referenceTo (otherName rootName))) = [otherName rootName] := by
  have hbefore : Text.before '#' (otherName rootName) = otherName rootName := by
    unfold otherName
    split <;> decide
  have hforeign : isForeign rootName (otherName rootName) = true := by
    unfold otherName
    split
    · next hroot => rw [hroot]; decide
    · next hroot => exact isForeign_iff.2 ⟨by decide, Ne.symm hroot⟩
  have hvisited : visited (bundleSource (referenceTo (otherName rootName))) =
      [otherName rootName] := rfl
  unfold targets foreignTargets
  rw [hvisited, List.map_singleton, hbefore, List.filter_singleton, hforeign]
  rfl

/-- Data is left alone everywhere only if there is nothing to turn in it in a copy. -/
theorem LeftAlone.unturned (h : LeftAlone rootName data) : ∃ key, Unturned (some key) data := by
  have hlocal := (h.document (constResolver rootName data)).selfContained
  have hasked : ∀ name, name ∈ targets rootName (bundleSource (referenceTo (otherName rootName))) ↔
      name = otherName rootName := by
    intro name
    rw [targets_referenceTo, List.mem_singleton]
  have hneeded : Needs rootName (referenceTo (otherName rootName)) (constResolver rootName data)
      (otherName rootName) := .asked ((hasked _).2 rfl)
  obtain ⟨out, hout⟩ := bundle_ok_iff.2 fun name
      (hname : Needs rootName (referenceTo (otherName rootName)) (constResolver rootName data)
        name) => by
    refine ⟨?_, _, rfl⟩
    cases hname with
    | asked hstart => exact List.mem_singleton.2 ((hasked name).1 hstart)
    | copied _ hresolve htarget =>
      -- the schema itself names no other
      cases hresolve
      have hnone : targets rootName (copySource (.object [("const", data)])) = [] := by
        refine SelfContained.foreignTargets ?_ rootName
        exact selfContained_object.2 fun entry hentry => by
          obtain rfl := List.mem_singleton.1 hentry
          exact hlocal
      rw [hnone] at htarget
      cases htarget
  have htakes : TakesCopies (referenceTo (otherName rootName)) := by
    refine ⟨_, rfl, fun defs hdefs => ?_⟩
    cases hdefs
  obtain ⟨key, hbundle, hkept⟩ := h.kept _ _ out htakes hout
  have hhead : ∀ step ∈ ["const"].head?, step ∉ ["$id", "$schema"] := by decide
  have hplace := hkept (some (otherName rootName)) _ [] "const" (.copy hneeded rfl) (by decide)
    hhead rfl
  obtain ⟨source, hresolve, hdefinition⟩ := hbundle.copies _ hneeded
  cases hresolve
  have hturned := along?_of_definition? hdefinition ["const"]
  exact ⟨key (otherName rootName),
    mapReferences_turn_eq_self_iff.1 (Option.some.inj (hturned.symm.trans hplace))⟩

/-! ## Top theorem -/

/-- Bundling leaves data alone if and only if it has nothing that reads as a reference to turn. With
`null` in its place bundling is the same and the data stays in its place, wherever it stands, exactly
if all references in the data are anchors without the name of a schema. In the bundled document alone
it is enough, and needed, that they are without the name of a schema. -/
theorem data_left_alone_iff (rootName : String) (data : Value) :
    (LeftAlone rootName data ↔ ∀ reference ∈ visited data,
      Text.before '#' reference = "" ∧ IsAnchor (Text.behind '#' reference)) ∧
    ∀ resolver, LeftAloneInDocument rootName resolver data ↔
      ∀ reference ∈ visited data, Text.before '#' reference = "" := by
  refine ⟨⟨fun h => ?_, fun h => ?_⟩, fun resolver =>
    ⟨fun h => h.selfContained, fun h => SelfContained.leftAlone h rootName resolver⟩⟩
  · obtain ⟨key, hdata⟩ := h.unturned
    exact fun reference hreference =>
      ⟨(hdata reference hreference).1, (hdata reference hreference).2 (Option.some_ne_none key)⟩
  · have hdata : Unturned (some "") data := fun reference hreference =>
      ⟨(h reference hreference).1, fun _ => (h reference hreference).2⟩
    exact hdata.leftAlone rootName

end Schemata.Bundle
