import Schemata.Proofs.Bundle.Bundled

/-!
# What references point at

A reference of the document or of a copy is followed in the bundle as a pointer. It leads to the
place of the value that it denoted before: in the copy of the schema that it names, in the document
for a reference without a name or with the name of the document, in the same part otherwise. What is
there is the value with its references turned; only the parts themselves have no identity any more,
and the document has the copies among its definitions.

    a bundle has the value of each part at the place of the part                (along?_bundle)
    reference r of a part, leading to v in part p →
      the turned r leads in the bundle to what stands there for v               (bundle_points)
-/

namespace Schemata.Bundle

open Json (Value)

/-! ## Algorithm -/

/-- The parts of a bundle, before they are bundled: the document, and under their names the schemas
that references reach. -/
inductive IsPart (rootName : String) (document : Value) (resolver : Resolver) :
    Option String → Value → Prop
  | root : IsPart rootName document resolver none document
  | copy {name : String} {source : Value}
      (hreached : Reached rootName resolver (targets rootName (bundleSource document)) name)
      (hresolve : resolver.resolve name = .ok source) :
      IsPart rootName document resolver (some name) source

def removed : Option String → List String
  | none => ["$id"]
  | some _ => ["$id", "$schema"]

def leftOf : Option String → Value → Value
  | none, value => bundleSource value
  | some _, value => copySource value

def place (key : String → String) : Option String → List String
  | none => []
  | some name => ["$defs", key name]

def leadsTo (rootName : String) (part : Option String) (reference : String) : Option String :=
  let target := Text.before '#' reference
  if target.isEmpty then part else if target = rootName then none else some target

def withCopies (defs : Entries Value) (copies : List (String × Value)) : Entries Value :=
  copies.foldl (fun defs copy => Entries.put defs copy.1 copy.2) defs

/-- What stands in a bundle for a value at some steps of a part. -/
def standIn (copies : List (String × Value)) : Option String → List String → Value → Value
  | none, [], value => addCopies (leftOf none value) copies
  | none, ["$defs"], .object defs => .object (withCopies defs copies)
  | some name, [], value => leftOf (some name) value
  | _, _, value => value

/-! ## Members that are removed -/

theorem child?_withoutMember (value : Value) {key step : String} (h : step ≠ key) :
    (value.withoutMember key).child? step = value.child? step := by
  cases value with
  | object members =>
    show Entries.get? (Entries.without members key) step = Entries.get? members step
    rw [Entries.get?_without, if_neg h]
  | _ => rfl

theorem mapReferencesMembers_without (f : String → String) (members : List (String × Value))
    (key : String) :
    mapReferencesMembers f (Entries.without members key) =
      Entries.without (mapReferencesMembers f members) key := by
  induction members with
  | nil => rfl
  | cons head members ih =>
    obtain ⟨other, member⟩ := head
    rw [mapReferencesMembers, Entries.without, Entries.without]
    split
    · exact ih
    · rw [mapReferencesMembers, ih]

theorem mapReferences_withoutMember (f : String → String) (value : Value) (key : String) :
    mapReferences f (value.withoutMember key) = (mapReferences f value).withoutMember key := by
  cases value with
  | object members => exact congrArg Value.object (mapReferencesMembers_without f members key)
  | _ => rfl

theorem mapReferences_leftOf (f : String → String) (part : Option String) (value : Value) :
    mapReferences f (leftOf part value) = leftOf part (mapReferences f value) := by
  cases part with
  | none => exact mapReferences_withoutMember f value "$id"
  | some name =>
    unfold leftOf copySource
    rw [mapReferences_withoutMember, mapReferences_withoutMember]

/-- What is left of a part is where it was. -/
theorem along?_leftOf {part : Option String} {step : String} (h : step ∉ removed part)
    (steps : List String) (value : Value) :
    (leftOf part value).along? (step :: steps) = value.along? (step :: steps) := by
  cases part with
  | none =>
    have hid : step ≠ "$id" := by simpa [removed] using h
    unfold leftOf bundleSource
    rw [Value.along?_cons, Value.along?_cons, child?_withoutMember value hid]
  | some name =>
    obtain ⟨hid, hschema⟩ : step ≠ "$id" ∧ step ≠ "$schema" := by simpa [removed] using h
    unfold leftOf copySource
    rw [Value.along?_cons, Value.along?_cons, child?_withoutMember _ hschema,
      child?_withoutMember value hid]

/-! ## Copies among definitions -/

variable {rootName : String} {resolver : Resolver} {document out : Value}
  {copies : List (String × Value)}

theorem get?_withCopies_of_not_mem (defs : Entries Value) {name : String}
    (h : name ∉ copies.map (·.1)) :
    Entries.get? (withCopies defs copies) name = Entries.get? defs name := by
  induction copies generalizing defs with
  | nil => rfl
  | cons copy copies ih =>
    rw [List.map_cons, List.mem_cons, not_or] at h
    show Entries.get? (withCopies (Entries.put defs copy.1 copy.2) copies) name = _
    rw [ih _ h.2, Entries.get?_put_of_ne defs copy.2 (Ne.symm h.1)]

theorem get?_withCopies_of_mem (defs : Entries Value) {copy : String × Value}
    (hfresh : (copies.map (·.1)).Nodup) (hmem : copy ∈ copies) :
    Entries.get? (withCopies defs copies) copy.1 = some copy.2 := by
  induction copies generalizing defs with
  | nil => cases hmem
  | cons first copies ih =>
    rw [List.map_cons, List.nodup_cons] at hfresh
    show Entries.get? (withCopies (Entries.put defs first.1 first.2) copies) copy.1 = _
    rcases List.mem_cons.1 hmem with rfl | hmem
    · rw [get?_withCopies_of_not_mem _ hfresh.1, Entries.get?_put_self]
    · exact ih _ hfresh.2 hmem

theorem child?_addCopies_of_ne (value : Value) (copies : List (String × Value)) {step : String}
    (h : step ≠ "$defs") : (addCopies value copies).child? step = value.child? step := by
  cases value with
  | object members =>
    unfold addCopies
    dsimp only
    split
    · rfl
    · split
      · show Entries.get? (Entries.put members "$defs" _) step = Entries.get? members step
        rw [Entries.get?_put_of_ne members _ (Ne.symm h)]
      · rfl
  | _ => rfl

/-- The definitions of a document with copies are its own, if it has any, and the copies. -/
theorem TakesCopies.child?_addCopies (htakes : TakesCopies document) (hcopies : copies ≠ []) :
    ∃ defs, (∀ value, document.child? "$defs" = some value → value = .object defs) ∧
      existingKeys document = Entries.keys defs ∧
      (addCopies document copies).child? "$defs" = some (.object (withCopies defs copies)) := by
  obtain ⟨members, rfl, hdefs⟩ := htakes
  obtain ⟨defs, hvalue, hkeys, hget⟩ : ∃ defs,
      (∀ value, Entries.get? members "$defs" = some value → value = .object defs) ∧
      existingKeys (.object members) = Entries.keys defs ∧
      (Entries.get? members "$defs").getD (.object []) = .object defs := by
    unfold existingKeys Value.member?
    dsimp only
    cases hget : Entries.get? members "$defs" with
    | none => exact ⟨[], fun _ h => (nomatch h), rfl, rfl⟩
    | some defs =>
      obtain ⟨entries, rfl⟩ := hdefs defs hget
      exact ⟨entries, fun value h => (Option.some.inj h).symm, rfl, rfl⟩
  refine ⟨defs, hvalue, hkeys, ?_⟩
  unfold addCopies
  dsimp only
  rw [if_neg (by simpa using hcopies), hget]
  exact Entries.get?_put_self _ _ _

/-! ## Places of parts -/

/-- Below a part itself, only the definitions of the document get anything beside what they have. -/
theorem standIn_cons {part : Option String} {step : String} {steps : List String} {value : Value}
    (h : ∀ defs, part = none → step = "$defs" → steps = [] → value = .object defs →
      withCopies defs copies = defs) : standIn copies part (step :: steps) value = value := by
  unfold standIn
  split
  · next heq => cases heq
  · next defs heq =>
    cases heq
    rw [h defs rfl rfl rfl rfl]
  · next heq => cases heq
  · rfl

/-- Copies are added beside what a document has. -/
theorem TakesCopies.along?_addCopies (htakes : TakesCopies document)
    (hapart : ∀ key ∈ copies.map (·.1), key ∉ existingKeys document) {step : String}
    {steps : List String} {value : Value} (h : document.along? (step :: steps) = some value) :
    (addCopies document copies).along? (step :: steps) =
      some (standIn copies none (step :: steps) value) := by
  by_cases hcopies : copies = []
  · subst hcopies
    rw [standIn_cons fun _ _ _ _ _ => rfl, ← h]
    obtain ⟨members, rfl, -⟩ := htakes
    rfl
  rw [Value.along?_cons] at h ⊢
  obtain ⟨child, hchild, hvalue⟩ := Option.bind_eq_some_iff.1 h
  by_cases hstep : step = "$defs"
  · subst hstep
    obtain ⟨defs, hdefs, hkeys, hadded⟩ := htakes.child?_addCopies hcopies
    obtain rfl := hdefs child hchild
    rw [hadded]
    cases steps with
    | nil => cases hvalue; rfl
    | cons name steps =>
      have hname : name ∉ copies.map (·.1) := by
        intro hmem
        apply hapart name hmem
        rw [hkeys, ← Entries.get?_isSome_iff]
        obtain ⟨inner, hinner, -⟩ := Option.bind_eq_some_iff.1 hvalue
        exact Option.isSome_iff_exists.2 ⟨inner, hinner⟩
      have hdeep : standIn copies none ("$defs" :: name :: steps) value = value :=
        standIn_cons fun _ _ _ hend => nomatch hend
      rw [hdeep, ← hvalue]
      show (Entries.get? (withCopies defs copies) name).bind _ = (Entries.get? defs name).bind _
      rw [get?_withCopies_of_not_mem defs hname]
  · rw [child?_addCopies_of_ne document copies hstep, hchild, standIn_cons fun _ _ hdefs => absurd hdefs hstep]
    exact hvalue

/-- A copy is at its key among the definitions. -/
theorem TakesCopies.along?_copy (htakes : TakesCopies document)
    (hfresh : (copies.map (·.1)).Nodup) {copy : String × Value} (hmem : copy ∈ copies)
    (steps : List String) :
    (addCopies document copies).along? ("$defs" :: copy.1 :: steps) = copy.2.along? steps := by
  obtain ⟨defs, -, -, hadded⟩ := htakes.child?_addCopies (List.ne_nil_of_mem hmem)
  rw [Value.along?_cons, hadded]
  show (Entries.get? (withCopies defs copies) copy.1).bind _ = _
  rw [get?_withCopies_of_mem defs hfresh hmem]
  rfl

/-- The copy of a name, under the key of the name. -/
theorem Copied.copy_mem {initial done names : List String} {state : State} {keys : DefKeys}
    (h : Copied rootName resolver initial done state copies names keys) {name : String}
    (hmem : name ∈ names) {source : Value} (hresolve : resolver.resolve name = .ok source) :
    (keys.keyOf name, mapReferences (turn rootName keys.keyOf (some (keys.keyOf name)))
      (copySource source)) ∈ copies := by
  obtain ⟨key, hlookup⟩ := h.lookup_of_mem hmem
  rw [DefKeys.keyOf_of_lookup hlookup]
  have hkeyed : some key ∈ copies.map fun copy => some copy.1 := by
    rw [h.keyed, ← hlookup]
    exact List.mem_map_of_mem hmem
  obtain ⟨copy, hcopy, heq⟩ := List.mem_map.1 hkeyed
  obtain rfl := Option.some.inj heq
  obtain ⟨other, source', hother, hresolve', hturned⟩ := h.turned copy hcopy
  obtain rfl := h.distinct.injective hlookup hother
  rw [hresolve] at hresolve'
  cases hresolve'
  rw [← hturned]
  exact hcopy

/-- A bundle has the values of each part at the place of the part, with their references turned. -/
theorem along?_bundle (htakes : TakesCopies document)
    (h : bundle rootName document resolver = .ok out) :
    ∃ (key : String → String) (copies : List (String × Value)),
      (∀ added ∈ copies.map (·.1), added ∉ existingKeys document) ∧
      (∀ name, Reached rootName resolver (targets rootName (bundleSource document)) name →
        ∃ source, resolver.resolve name = .ok source) ∧
      ∀ part source, IsPart rootName document resolver part source → ∀ steps value,
        (∀ step ∈ steps.head?, step ∉ removed part) →
        (mapReferences (turn rootName key (part.map key)) source).along? steps = some value →
        out.along? (place key part ++ steps) = some (standIn copies part steps value) := by
  obtain ⟨root, copies, names, keys, hroot, hcopied, hreached, rfl⟩ := bundle_ok h
  have hrootTurned := rewrite_turned hroot hcopied.keeps
  obtain ⟨hrootTakes, hrootKeys⟩ := htakes.bundleSource.rewrite hroot
  rw [existingKeys_bundleSource] at hrootKeys
  refine ⟨keys.keyOf, copies, hcopied.apart, fun name hname => ?_, ?_⟩
  · obtain ⟨source, hresolve, -⟩ := hcopied.closed name ((hreached name).2 hname)
    exact ⟨source, hresolve⟩
  · rintro part source hpart steps value hsteps hvalue
    cases hpart with
    | root =>
      have hsource : root.1 = leftOf none (mapReferences (turn rootName keys.keyOf none) document) := by
        rw [hrootTurned, ← mapReferences_leftOf]
        rfl
      cases steps with
      | nil =>
        cases hvalue
        rw [hsource]
        rfl
      | cons step steps =>
        refine hrootTakes.along?_addCopies (hrootKeys ▸ hcopied.apart) ?_
        rw [hsource, along?_leftOf (hsteps step rfl)]
        exact hvalue
    | @copy name _ hname hresolve =>
      have hcopy := hcopied.copy_mem ((hreached name).2 hname) hresolve
      have hsource := mapReferences_leftOf (turn rootName keys.keyOf (some (keys.keyOf name)))
        (some name) source
      show (addCopies root.1 copies).along? ("$defs" :: keys.keyOf name :: steps) = _
      rw [hrootTakes.along?_copy hcopied.fresh hcopy]
      show (mapReferences _ (leftOf (some name) source)).along? steps = _
      rw [hsource]
      cases steps with
      | nil => cases hvalue; rfl
      | cons step steps =>
        have hbelow : standIn copies (some name) (step :: steps) value = value :=
          standIn_cons fun _ hpart => nomatch hpart
        rw [along?_leftOf (hsteps step rfl), hbelow]
        exact hvalue

/-! ## Following references -/

/-- A turned reference leads to the part that the reference leads to, and from there along the
fragment. -/
theorem pointerSteps?_turn (key : String → String) (part : Option String) {reference : String}
    {steps : List String} (h : Json.pointerSteps? (Text.behind '#' reference) = some steps) :
    Json.pointerSteps? (Text.behind '#' (turn rootName key (part.map key) reference)) =
      some (place key (leadsTo rootName part reference) ++ steps) := by
  unfold turn leadsTo
  dsimp only
  split
  · cases part with
    | none => exact h
    | some name => exact pointerSteps?_referenceInto (key name) h
  · split
    · rw [behind_hash]
      exact h
    · exact pointerSteps?_referenceInto (key (Text.before '#' reference)) h

/-- A text under a `$ref` that is below no other one is a reference that rewriting meets. -/
theorem mem_visited {value : Value} {path : List String} {reference : String} (h : "$ref" ∉ path)
    (hreference : value.along? (path ++ ["$ref"]) = some (.string reference)) :
    reference ∈ visited value := by
  induction path generalizing value with
  | nil =>
    cases value with
    | object members =>
      have hget : Entries.get? members "$ref" = some (.string reference) := by
        simpa [Value.along?_cons, Value.along?, Value.child?] using hreference
      exact mem_visitedMembers.2 ⟨_, Entries.mem_of_get? hget, List.mem_singleton.2 rfl⟩
    | array items => cases hreference
    | _ => cases hreference
  | cons step path ih =>
    rw [List.mem_cons, not_or] at h
    rw [List.cons_append, Value.along?_cons] at hreference
    obtain ⟨child, hchild, hreference⟩ := Option.bind_eq_some_iff.1 hreference
    have hmem := ih h.2 hreference
    cases value with
    | object members =>
      refine mem_visitedMembers.2 ⟨_, Entries.mem_of_get? hchild, ?_⟩
      unfold visitedMember
      rw [if_neg (Ne.symm h.1)]
      exact hmem
    | array items =>
      obtain ⟨i, -, hitem⟩ := Option.bind_eq_some_iff.1 hchild
      exact mem_visitedItems.2 ⟨child, List.mem_of_getElem? hitem, hmem⟩
    | _ => cases hchild

/-- What a reference of a part leads to is a part. -/
theorem IsPart.leadsTo {part : Option String} {source : Value}
    (hpart : IsPart rootName document resolver part source)
    (hresolves : ∀ name, Reached rootName resolver (targets rootName (bundleSource document)) name →
      ∃ source, resolver.resolve name = .ok source)
    {path : List String} {reference : String} (hpath : "$ref" ∉ path)
    (hkept : ∀ step ∈ (path ++ ["$ref"]).head?, step ∉ removed part)
    (hreference : source.along? (path ++ ["$ref"]) = some (.string reference)) :
    ∃ target, IsPart rootName document resolver (Bundle.leadsTo rootName part reference) target := by
  unfold Bundle.leadsTo
  dsimp only
  split
  · exact ⟨source, hpart⟩
  · next hempty =>
    split
    · exact ⟨document, .root⟩
    · next hroot =>
      have hforeign : isForeign rootName (Text.before '#' reference) = true :=
        isForeign_iff.2 ⟨by simpa using hempty, hroot⟩
      have htarget : ∀ {value : Value}, reference ∈ visited value →
          Text.before '#' reference ∈ targets rootName value := fun hmem =>
        List.mem_filter.2 ⟨List.mem_map_of_mem hmem, hforeign⟩
      have hreached : Reached rootName resolver (targets rootName (bundleSource document))
          (Text.before '#' reference) := by
        have hmem : reference ∈ visited (leftOf part source) := by
          apply mem_visited hpath
          rw [← hreference]
          cases path with
          | nil => exact along?_leftOf (hkept _ rfl) _ source
          | cons step path => exact along?_leftOf (hkept _ rfl) _ source
        cases hpart with
        | root => exact .asked (htarget hmem)
        | copy hname hresolve => exact .copied hname hresolve (htarget hmem)
      obtain ⟨target, hresolve⟩ := hresolves _ hreached
      exact ⟨target, .copy hreached hresolve⟩

/-! ## Top theorem -/

/-- Bundling preserves what references point at. A reference of a part, the document or the schema
of a copy, is below no other `$ref` and not in a member that is removed. It stands, turned, at its
place in the part, and names no schema any more. Where its fragment is a pointer to a value of the
part that it leads to, and not into a removed member, the turned reference is a pointer to what
stands for that value in the bundle: the value as it is in its part with all references turned. The
copies that the document takes up are under keys that it did not have. -/
theorem bundle_points (htakes : TakesCopies document)
    (h : bundle rootName document resolver = .ok out) :
    ∃ (key : String → String) (copies : List (String × Value)),
      (∀ added ∈ copies.map (·.1), added ∉ existingKeys document) ∧
      ∀ part source path reference, IsPart rootName document resolver part source →
        "$ref" ∉ path → (∀ step ∈ path.head?, step ∉ removed part) →
        source.along? (path ++ ["$ref"]) = some (.string reference) →
        let turned := turn rootName key (part.map key) reference
        let led := leadsTo rootName part reference
        out.along? (place key part ++ (path ++ ["$ref"])) = some (.string turned) ∧
        Text.before '#' turned = "" ∧
        ∃ target, IsPart rootName document resolver led target ∧
          ∀ steps value, Json.pointerSteps? (Text.behind '#' reference) = some steps →
            (∀ step ∈ steps.head?, step ∉ removed led) → target.along? steps = some value →
            ∃ value', (mapReferences (turn rootName key (led.map key)) target).along? steps =
                some value' ∧
              out.at? (Text.behind '#' turned) = some (standIn copies led steps value') := by
  obtain ⟨key, copies, hapart, hresolves, hplaces⟩ := along?_bundle htakes h
  refine ⟨key, copies, hapart, fun part source path reference hpart hpath hhead hreference => ?_⟩
  have hkept : ∀ step ∈ (path ++ ["$ref"]).head?, step ∉ removed part := by
    cases path with
    | nil =>
      intro step hstep
      obtain rfl := Option.some.inj hstep
      cases part <;> simp [removed]
    | cons first path => exact hhead
  obtain ⟨target, htarget⟩ := hpart.leadsTo hresolves hpath hkept hreference
  refine ⟨?_, before_turn _ _ _ _, target, htarget, fun steps value hsteps hled hvalue => ?_⟩
  · rw [hplaces part source hpart _ _ hkept (along?_reference hpath hreference)]
    cases path with
    | nil => exact congrArg some (standIn_cons fun _ _ _ _ htext => (nomatch htext))
    | cons first path => exact congrArg some (standIn_cons fun _ _ _ _ htext => (nomatch htext))
  · obtain ⟨value', hvalue'⟩ := Option.isSome_iff_exists.1 (along?_mapReferences_isSome hvalue)
    refine ⟨value', hvalue', ?_⟩
    rw [Value.at?, pointerSteps?_turn key part hsteps]
    exact hplaces _ target htarget steps value' hled hvalue'

/-- A person at home, where the name of the schema is taken among the definitions. -/
def personDocument : Value :=
  .object [("$defs", .object [("address", .bool true)]), ("$id", .string "person"),
    ("properties", .object [("home", .object [("$ref", .string "address#/zip")])])]

/-- Registered addresses. -/
def addressBook : Resolver where
  names := ["address"]
  resolve _ := .ok (.object [("owner", .object [("$ref", .string "person")]),
    ("zip", .object [("pattern", .string "[0-9]+")])])

/-- The home of a person leads to the zip of the address. -/
theorem bundle_points_of_home :
    ∃ out turned, bundle "person" personDocument addressBook = .ok out ∧
      out.along? ["properties", "home", "$ref"] = some (.string turned) ∧
      out.at? (Text.behind '#' turned) = some (.object [("pattern", .string "[0-9]+")]) := by
  have htakes : TakesCopies personDocument := by
    refine ⟨_, rfl, fun defs h => ?_⟩
    cases h
    exact ⟨_, rfl⟩
  obtain ⟨out, hout⟩ : ∃ out, bundle "person" personDocument addressBook = .ok out := ⟨_, rfl⟩
  obtain ⟨key, copies, -, hpoints⟩ := bundle_points htakes hout
  obtain ⟨hplace, -, target, htarget, hleads⟩ := hpoints none personDocument ["properties", "home"]
    "address#/zip" .root (by decide) (by decide) rfl
  have hled : leadsTo "person" none "address#/zip" = some "address" := by decide
  rw [hled] at htarget hleads
  cases htarget with
  | copy hreached hresolve =>
    cases hresolve
    obtain ⟨value', hvalue', hat⟩ := hleads ["zip"] _ (by decide) (by decide) rfl
    cases hvalue'
    exact ⟨out, _, hout, hplace, hat⟩

end Schemata.Bundle
