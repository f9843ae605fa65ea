import Schemata.Proofs.Bundle.Completion
import Schemata.Proofs.Bundle.SelfContained
import Schemata.Proofs.JsonSchema.PercentSigns

/-!
# References that are told apart

A turned reference is a text without the name of a schema, which stands for a place: a part of the
bundle and a fragment of this part. Pointers into different copies begin with different keys, and
none of these keys is one that the document has, so that pointers are told apart wherever they stand.
Anchors are not: an anchor stays as it is in all parts. Besides, the definitions of the document may
be a list, where a key is the index of an item.

    the fragment of a turned reference is that of its place                    (behind_turn)
    a pointer to a copy is none to a place of the document    (items_of_denotes)
    turned references are the same although their places are not
      ↔ their places are confused: the same anchor of two parts,
        or an item of the document and a copy under its index         (references_apart_iff)
-/

namespace Schemata.Bundle

open Json (Value)
open JsonSchema.UriReference (decodePercent? decodePercent?_append IsPlain plain_of_all)

/-! ## Algorithm -/

/-- A fragment denotes a place in a document: as a pointer to a value, as it is written or with its
percent signs decoded, or as an anchor that is declared. -/
inductive Denotes (target : Value) (fragment : String) : Prop
  | pointer {steps : List String} {value : Value}
      (hsteps : Json.pointerSteps? fragment = some steps) (hvalue : target.along? steps = some value)
  | decoded {pointer : String} {steps : List String} {value : Value}
      (hdecoded : decodePercent? fragment = some pointer)
      (hsteps : Json.pointerSteps? pointer = some steps) (hvalue : target.along? steps = some value)
  | anchor {path : List String} (hanchor : IsAnchor fragment)
      (hdeclared : target.along? (path ++ ["$anchor"]) = some (.string fragment))

/-- What a reference of a part stands for: the part that it leads to, and the fragment. -/
def placeOf (rootName : String) (part : Option String) (reference : String) :
    Option String × String :=
  (leadsTo rootName part reference, Text.behind '#' reference)

/-- A reference of a part that bundling meets, and that denotes a place in the part that it leads
to. -/
structure Refers (rootName : String) (document : Value) (resolver : Resolver)
    (part : Option String) (reference : String) : Prop where
  met : ∃ source, IsPart rootName document resolver part source ∧
    reference ∈ visited (leftOf part source)
  denotes : ∃ target, IsPart rootName document resolver (leadsTo rootName part reference) target ∧
    Denotes target (Text.behind '#' reference)

/-- Two places that turned references do not tell apart: the same anchor of two parts, or, where the
definitions of the document are a list, an item of it and a copy that has its index as a key. -/
inductive Confused (document : Value) (key : String → String) :
    Option String × String → Option String × String → Prop
  | anchor {part part' : Option String} {fragment : String} (hanchor : IsAnchor fragment)
      (hne : part ≠ part') : Confused document key (part, fragment) (part', fragment)
  | item {name fragment : String} {items : List Value}
      (hdefs : document.member? "$defs" = some (.array items)) (hpointer : ¬ IsAnchor fragment) :
      Confused document key (none, "/$defs/" ++ Json.escapeStep (key name) ++ fragment)
        (some name, fragment)
  | copy {name fragment : String} {items : List Value}
      (hdefs : document.member? "$defs" = some (.array items)) (hpointer : ¬ IsAnchor fragment) :
      Confused document key (some name, fragment)
        (none, "/$defs/" ++ Json.escapeStep (key name) ++ fragment)

/-- The run of a bundle by the keys of names: all references are turned by these keys, in the
document and in a copy of each schema that is reached. -/
structure IsTurned (rootName : String) (document : Value) (resolver : Resolver)
    (key : String → String) (out : Value) : Prop where
  distinct : ∀ name other, Needs rootName document resolver name →
    Needs rootName document resolver other → key name = key other → name = other
  fresh : ∀ name, Needs rootName document resolver name → key name ∉ existingKeys document
  isKey : ∀ name, Needs rootName document resolver name → IsKey (key name)
  run : ∃ root copies,
    rewrite ⟨rootName, none, resolver⟩ (bundleSource document)
      ⟨DefKeys.start (existingKeys document), []⟩ = .ok root ∧
    copyQueue rootName resolver (resolver.names.length + 1) root.2 = .ok copies ∧
    out = addCopies root.1 copies ∧
    root.1 = mapReferences (turn rootName key none) (bundleSource document) ∧
    ∀ copy, copy ∈ copies ↔ ∃ name source, Needs rootName document resolver name ∧
      resolver.resolve name = .ok source ∧
      copy = (key name, mapReferences (turn rootName key (some (key name))) (copySource source))

/-- The fragment of a turned reference, by the place that it stands for. -/
def fragmentOf (key : String → String) : Option String × String → String
  | (none, fragment) => fragment
  | (some name, fragment) =>
    if IsAnchor fragment then fragment else "/$defs/" ++ Json.escapeStep (key name) ++ fragment

/-! ## Characters of keys -/

theorem isAlphanum_le {c : Char} (h : c.isAlphanum = true) : c.val ≤ 127 := by
  have hvalue : c.val.toNat ≤ 127 := by
    change (decide (c.val ≥ 'A'.val ∧ c.val ≤ 'Z'.val) ||
      (decide (c.val ≥ 'a'.val) && decide (c.val ≤ 'z'.val)) ||
      (decide (c.val ≥ '0'.val) && decide (c.val ≤ '9'.val))) = true at h
    simp [UInt32.le_iff_toNat_le] at h
    have hnat : c.toNat = c.val.toNat := rfl
    omega
  exact hvalue

/-- The characters of a key are plain, and no step of a pointer has to escape them. -/
theorem keyChar_plain {c : Char} (h : keyChar c = c) : IsPlain c ∧ Json.escapeStepChar c = [c] := by
  rcases keyChar_eq_self_iff.1 h with halphanum | rfl | rfl | rfl
  · have hne : ∀ other : Char, other.isAlphanum = false → c ≠ other := by
      rintro other hother rfl
      rw [halphanum] at hother
      cases hother
    refine ⟨⟨isAlphanum_le halphanum, hne '%' (by decide)⟩, ?_⟩
    unfold Json.escapeStepChar
    rw [if_neg (hne '~' (by decide)), if_neg (hne '/' (by decide))]
  · decide
  · decide
  · decide

theorem IsKey.escapeStep {key : String} (h : IsKey key) : Json.escapeStep key = key := by
  apply String.toList_inj.1
  have hchars : ∀ chars : List Char, (∀ c ∈ chars, keyChar c = c) →
      chars.flatMap Json.escapeStepChar = chars := by
    intro chars hall
    induction chars with
    | nil => rfl
    | cons c chars ih =>
      obtain ⟨hc, hrest⟩ := List.forall_mem_cons.1 hall
      rw [List.flatMap_cons, ih hrest, (keyChar_plain hc).2]
      rfl
  rw [Json.toList_escapeStep, hchars _ h]

/-! ## Pointers to copies -/

variable {rootName : String} {resolver : Resolver} {document out : Value}

theorem exists_slash_of_not_isAnchor {fragment : String} (h : ¬ IsAnchor fragment) :
    fragment = "" ∨ ∃ rest, fragment.toList = '/' :: rest := by
  rcases Decidable.not_not.1 (mt isAnchor_iff.2 h) with hempty | hslash
  · exact Or.inl (String.isEmpty_iff.1 hempty)
  · right
    have hhead : fragment.toList.head? = some '/' := by simpa [Text.startsWith] using hslash
    cases hchars : fragment.toList with
    | nil => rw [hchars] at hhead; cases hhead
    | cons c rest => rw [hchars] at hhead; cases hhead; exact ⟨rest, rfl⟩

theorem not_isAnchor_of_slash {fragment : String} {rest : List Char}
    (h : fragment.toList = '/' :: rest) : ¬ IsAnchor fragment := by
  intro hanchor
  have hslash := hanchor.2
  unfold Text.startsWith at hslash
  rw [h] at hslash
  exact absurd hslash (by simp)

/-- What is no anchor is a pointer. -/
theorem pointerSteps?_of_not_isAnchor {fragment : String} (h : ¬ IsAnchor fragment) :
    ∃ steps, Json.pointerSteps? fragment = some steps := by
  rcases exists_slash_of_not_isAnchor h with rfl | ⟨rest, hrest⟩
  · exact ⟨[], rfl⟩
  · have hparts : Text.splitAll '/' fragment = "" :: (Text.splitChars '/' rest).map String.ofList := by
      unfold Text.splitAll
      rw [hrest, Text.splitChars, if_pos rfl]
      rfl
    have hempty : ¬ fragment.isEmpty = true := by
      intro hempty
      rw [String.isEmpty_iff.1 hempty] at hrest
      cases hrest
    unfold Json.pointerSteps?
    rw [if_neg hempty, hparts]
    exact ⟨_, rfl⟩

/-- A pointer with its percent signs decoded is a pointer. -/
theorem not_isAnchor_decoded {fragment pointer : String} (h : ¬ IsAnchor fragment)
    (hdecoded : decodePercent? fragment = some pointer) : ¬ IsAnchor pointer := by
  rcases exists_slash_of_not_isAnchor h with rfl | ⟨rest, hrest⟩
  · have hempty : decodePercent? "" = some "" := by decide +kernel
    rw [hempty] at hdecoded
    cases hdecoded
    exact fun hanchor => hanchor.1 rfl
  · have hfragment : fragment = "/" ++ String.ofList rest := by
      apply String.toList_inj.1
      rw [hrest, String.toList_append, String.toList_ofList]
      simp
    rw [hfragment] at hdecoded
    obtain ⟨behind, rfl, -⟩ := decodePercent?_append (plain_of_all rfl) hdecoded
    exact not_isAnchor_of_slash (String.toList_append ..)

/-- A pointer to a copy leads to its key among the definitions. -/
theorem pointerSteps?_copy (key : String) {fragment : String} (h : ¬ IsAnchor fragment) :
    ∃ steps, Json.pointerSteps? ("/$defs/" ++ Json.escapeStep key ++ fragment) =
      some ("$defs" :: key :: steps) := by
  obtain ⟨steps, hsteps⟩ := pointerSteps?_of_not_isAnchor h
  have hdefs : "/$defs/" = "/" ++ Json.escapeStep "$defs" ++ "/" := by decide
  have htext : "/$defs/" ++ Json.escapeStep key ++ fragment =
      "/" ++ Json.escapeStep "$defs" ++ ("/" ++ Json.escapeStep key ++ fragment) := by
    rw [hdefs]
    simp only [String.append_assoc]
  refine ⟨steps, ?_⟩
  rw [htext]
  exact Json.pointerSteps?_cons "$defs" (Json.pointerSteps?_cons key hsteps)

/-- A place behind a key that the definitions do not have is behind an item of a list. -/
theorem items_of_along? {key : String} (hfresh : key ∉ existingKeys document) {steps : List String}
    {value : Value} (h : document.along? ("$defs" :: key :: steps) = some value) :
    ∃ items, document.member? "$defs" = some (.array items) := by
  obtain ⟨defs, hdefs, h⟩ := Option.bind_eq_some_iff.1 h
  obtain ⟨child, hchild, -⟩ := Option.bind_eq_some_iff.1 h
  have hmember : document.member? "$defs" = some defs := by
    cases document with
    | object members => exact hdefs
    | array items =>
      have hindex : Json.indexOfStep? "$defs" = none := by decide
      unfold Value.child? at hdefs
      rw [hindex] at hdefs
      cases hdefs
    | _ => cases hdefs
  cases defs with
  | array items => exact ⟨items, hmember⟩
  | object entries =>
    have hkeys : existingKeys document = Entries.keys entries := by
      unfold existingKeys
      rw [hmember]
    rw [hkeys, ← Entries.get?_isSome_iff] at hfresh
    exact absurd (Option.isSome_iff_exists.2 ⟨child, hchild⟩) hfresh
  | _ => cases hchild

/-- A pointer to a copy denotes no place of the document, unless its definitions are a list. -/
theorem items_of_denotes {key fragment : String} (hkey : IsKey key)
    (hfresh : key ∉ existingKeys document) (hpointer : ¬ IsAnchor fragment)
    (h : Denotes document ("/$defs/" ++ Json.escapeStep key ++ fragment)) :
    ∃ items, document.member? "$defs" = some (.array items) := by
  cases h with
  | pointer hsteps hvalue =>
    obtain ⟨steps, hcopy⟩ := pointerSteps?_copy key hpointer
    rw [hcopy] at hsteps
    cases hsteps
    exact items_of_along? hfresh hvalue
  | decoded hdecoded hsteps hvalue =>
    have hfront : ∀ c ∈ ("/$defs/" ++ Json.escapeStep key).toList, IsPlain c := by
      rw [hkey.escapeStep, String.toList_append, List.forall_mem_append]
      exact ⟨plain_of_all rfl, fun c hc => (keyChar_plain (hkey c hc)).1⟩
    obtain ⟨behind, rfl, hbehind⟩ := decodePercent?_append hfront hdecoded
    obtain ⟨steps, hcopy⟩ := pointerSteps?_copy key (not_isAnchor_decoded hpointer hbehind)
    rw [hcopy] at hsteps
    cases hsteps
    exact items_of_along? hfresh hvalue
  | anchor hanchor hdeclared =>
    have hslash : ("/$defs/" ++ Json.escapeStep key ++ fragment).toList =
        '/' :: ("$defs/".toList ++ (Json.escapeStep key ++ fragment).toList) := by
      simp [String.toList_append]
    exact absurd hanchor (not_isAnchor_of_slash hslash)

/-! ## Fragments of turned references -/

variable {key : String → String}

theorem fragmentOf_anchor {fragment : String} (h : IsAnchor fragment) (part : Option String) :
    fragmentOf key (part, fragment) = fragment := by
  cases part with
  | none => rfl
  | some name => exact if_pos h

theorem fragmentOf_copy {fragment : String} (h : ¬ IsAnchor fragment) (name : String) :
    fragmentOf key (some name, fragment) = "/$defs/" ++ Json.escapeStep (key name) ++ fragment :=
  if_neg h

theorem behind_referenceInto (name fragment : String) :
    Text.behind '#' (referenceInto (key name) fragment) = fragmentOf key (some name, fragment) := by
  by_cases hanchor : IsAnchor fragment
  · rw [referenceInto_of_anchor hanchor, behind_hash, fragmentOf_anchor hanchor]
  · have hhash : "#/$defs/" = "#" ++ "/$defs/" := by decide
    rw [referenceInto_of_pointer hanchor, hhash, String.append_assoc, String.append_assoc,
      behind_hash, fragmentOf_copy hanchor, String.append_assoc]

/-- The fragment of a turned reference depends only on the place that it stands for. -/
theorem behind_turn (key : String → String) (part : Option String) (reference : String) :
    Text.behind '#' (turn rootName key (part.map key) reference) =
      fragmentOf key (placeOf rootName part reference) := by
  unfold turn placeOf leadsTo
  dsimp only
  split
  · cases part with
    | none => rfl
    | some name => exact behind_referenceInto name _
  · split
    · exact behind_hash _
    · exact behind_referenceInto (Text.before '#' reference) _

/-- Turned references with the same fragment are the same, unless the fragment is empty. -/
theorem turn_eq_of_fragmentOf {part part' : Option String} {reference reference' : String}
    (h : fragmentOf key (placeOf rootName part reference) =
      fragmentOf key (placeOf rootName part' reference'))
    (hne : fragmentOf key (placeOf rootName part reference) ≠ "") :
    turn rootName key (part.map key) reference = turn rootName key (part'.map key) reference' := by
  have hhash : ∀ part reference, fragmentOf key (placeOf rootName part reference) ≠ "" →
      "#" ++ fragmentOf key (placeOf rootName part reference) =
        turn rootName key (part.map key) reference := by
    intro part reference hfragment
    rw [← behind_turn] at hfragment ⊢
    refine hash_behind (before_turn rootName key _ reference) fun hempty => hfragment ?_
    rw [hempty]
    rfl
  rw [← hhash part reference hne, ← hhash part' reference' (h ▸ hne), h]

/-! ## Places that are confused -/

theorem Confused.symm {place place' : Option String × String} (h : Confused document key place place') :
    Confused document key place' place := by
  cases h with
  | anchor hanchor hne => exact .anchor hanchor hne.symm
  | item hdefs hpointer => exact .copy hdefs hpointer
  | copy hdefs hpointer => exact .item hdefs hpointer

/-- Confused places have the same fragment, and it is not empty. -/
theorem Confused.fragmentOf {place place' : Option String × String}
    (h : Confused document key place place') :
    fragmentOf key place = fragmentOf key place' ∧ fragmentOf key place ≠ "" ∧ place ≠ place' := by
  have hdefs : ∀ text, "/$defs/" ++ text ≠ "" := by
    intro text hempty
    have hchars := congrArg String.toList hempty
    rw [String.toList_append] at hchars
    exact absurd (List.append_eq_nil_iff.1 hchars).1 (by decide)
  cases h with
  | @anchor part part' fragment hanchor hne =>
    rw [fragmentOf_anchor hanchor, fragmentOf_anchor hanchor]
    exact ⟨rfl, hanchor.1, fun heq => hne (congrArg Prod.fst heq)⟩
  | item _ hpointer =>
    rw [fragmentOf_copy hpointer, String.append_assoc]
    exact ⟨rfl, hdefs _, fun heq => nomatch congrArg Prod.fst heq⟩
  | copy _ hpointer =>
    rw [fragmentOf_copy hpointer, String.append_assoc]
    exact ⟨rfl, hdefs _, fun heq => nomatch congrArg Prod.fst heq⟩

/-- The keys of copies end at the first slash behind them. -/
theorem key_append_inj {name other fragment fragment' : String} (hname : IsKey (key name))
    (hother : IsKey (key other)) (hpointer : ¬ IsAnchor fragment) (hpointer' : ¬ IsAnchor fragment')
    (h : key name ++ fragment = key other ++ fragment') :
    key name = key other ∧ fragment = fragment' := by
  have hfront : ∀ {text fragment : String}, IsKey text → ¬ IsAnchor fragment →
      (text.toList ++ fragment.toList).takeWhile (· ≠ '/') = text.toList := by
    intro text fragment hkey hpointer
    have hslash : ∀ c ∈ text.toList, decide (c ≠ '/') = true := by
      intro c hc
      rw [decide_eq_true_iff]
      rintro rfl
      exact absurd (hkey '/' hc) (by decide)
    rw [List.takeWhile_append_of_pos hslash]
    rcases exists_slash_of_not_isAnchor hpointer with rfl | ⟨rest, hrest⟩
    · simp
    · rw [hrest]
      simp
  have hlists := congrArg String.toList h
  rw [String.toList_append, String.toList_append] at hlists
  have hkeys := hfront hname hpointer
  rw [hlists, hfront hother hpointer'] at hkeys
  rw [hkeys] at hlists
  exact ⟨String.toList_inj.1 hkeys.symm, String.toList_inj.1 (List.append_cancel_left hlists)⟩

/-- A place of the document and one of a copy, with the same fragment, are confused. -/
theorem confused_of_document {name fragment fragment' : String} (hkey : IsKey (key name))
    (hfresh : key name ∉ existingKeys document) (hdenotes : Denotes document fragment)
    (h : fragmentOf key (none, fragment) = fragmentOf key (some name, fragment')) :
    Confused document key (none, fragment) (some name, fragment') := by
  by_cases hanchor : IsAnchor fragment'
  · rw [fragmentOf_anchor hanchor] at h
    obtain rfl : fragment = fragment' := h
    exact .anchor hanchor (Option.some_ne_none name).symm
  · rw [fragmentOf_copy hanchor] at h
    obtain rfl : fragment = _ := h
    obtain ⟨items, hitems⟩ := items_of_denotes hkey hfresh hanchor hdenotes
    exact .item hitems hanchor

/-- Places of two copies with the same fragment are confused, or the same. -/
theorem confused_of_copies {name other fragment fragment' : String} (hname : IsKey (key name))
    (hother : IsKey (key other)) (hdistinct : key name = key other → name = other)
    (h : fragmentOf key (some name, fragment) = fragmentOf key (some other, fragment'))
    (hne : (some name, fragment) ≠ (some other, fragment')) :
    Confused document key (some name, fragment) (some other, fragment') := by
  have hslash : ∀ {text fragment : String}, IsAnchor fragment → fragment ≠ "/$defs/" ++ text := by
    rintro text fragment hanchor rfl
    exact not_isAnchor_of_slash (String.toList_append ..) hanchor
  by_cases hanchor : IsAnchor fragment <;> by_cases hanchor' : IsAnchor fragment'
  · rw [fragmentOf_anchor hanchor, fragmentOf_anchor hanchor'] at h
    subst h
    exact .anchor hanchor fun hpart => hne (by rw [hpart])
  · rw [fragmentOf_anchor hanchor, fragmentOf_copy hanchor', String.append_assoc] at h
    exact absurd h (hslash hanchor)
  · rw [fragmentOf_copy hanchor, fragmentOf_anchor hanchor', String.append_assoc] at h
    exact absurd h.symm (hslash hanchor')
  · rw [fragmentOf_copy hanchor, fragmentOf_copy hanchor', hname.escapeStep, hother.escapeStep,
      String.append_assoc, String.append_assoc] at h
    have hlists := congrArg String.toList h
    rw [String.toList_append, String.toList_append (t := key other ++ fragment')] at hlists
    obtain ⟨hkeys, rfl⟩ := key_append_inj hname hother hanchor hanchor'
      (String.toList_inj.1 (List.append_cancel_left hlists))
    exact absurd (by rw [hdistinct hkeys]) hne

/-! ## Turned runs -/

/-- A bundle comes from a run that turns all references by the keys of names. -/
theorem isTurned_of_bundle (h : bundle rootName document resolver = .ok out) :
    ∃ key, IsTurned rootName document resolver key out := by
  obtain ⟨root, copies, names, keys, hroot, hcopies, hcopied, hreached, hout⟩ := bundle_ok_run h
  have hcopy := fun name hname => hcopied.exists_copy ((hreached name).2 hname)
  have hwritten : root.2.keys.Written := by
    rw [(rewrite_asks hroot).state]
    exact written_foldl (DefKeys.written_start _) _
  refine ⟨keys.keyOf, fun name other hname hother => ?_, fun name hname => ?_,
    fun name hname => ?_, root, copies, hroot, hcopies, hout, rewrite_turned hroot hcopied.keeps,
    fun copy => ⟨fun hmem => ?_, ?_⟩⟩
  · exact hcopied.keyOf_injective ((hreached name).2 hname) ((hreached other).2 hother)
  · obtain ⟨source, -, hmem⟩ := hcopy name hname
    exact hcopied.apart _ (List.mem_map_of_mem hmem)
  · obtain ⟨source, -, hmem⟩ := hcopy name hname
    exact (copyQueue_selfContained hwritten hcopies _ hmem).1
  · obtain ⟨name, source, hlookup, hresolve, hturned⟩ := hcopied.turned copy hmem
    have hname : name ∈ names := by
      have hkeyed : name ∈ keys.names := by
        refine Decidable.byContradiction fun hnot => ?_
        rw [DefKeys.lookup_eq_none_iff_names.2 hnot] at hlookup
        cases hlookup
      rwa [hcopied.order, List.nil_append, List.mem_reverse] at hkeyed
    refine ⟨name, source, (hreached name).1 hname, hresolve, ?_⟩
    rw [DefKeys.keyOf_of_lookup hlookup, ← hturned]
  · rintro ⟨name, source, hname, hresolve, rfl⟩
    obtain ⟨source', hresolve', hmem⟩ := hcopy name hname
    rw [hresolve] at hresolve'
    cases hresolve'
    exact hmem

/-- What a reference denotes is a place of the document, or of a schema that is copied. -/
theorem Refers.place {part : Option String} {reference : String}
    (h : Refers rootName document resolver part reference) :
    (leadsTo rootName part reference = none ∧ Denotes document (Text.behind '#' reference)) ∨
      ∃ name, leadsTo rootName part reference = some name ∧
        Needs rootName document resolver name := by
  obtain ⟨target, htarget, hdenotes⟩ := h.denotes
  generalize leadsTo rootName part reference = led at htarget
  cases htarget with
  | root => exact Or.inl ⟨rfl, hdenotes⟩
  | @copy name _ hreached _ => exact Or.inr ⟨name, rfl, hreached⟩

/-! ## Top theorem -/

/-- Which references bundling confuses. Take two references, of the document or of schemas that are
copied, that denote places of their targets. Turned they are the same text although they stand for
different places, by the schema or by the fragment, if and only if the places are the same anchor of
two parts, or an item of a list of definitions and a copy under its index. -/
theorem references_apart_iff (h : bundle rootName document resolver = .ok out) :
    ∃ key, IsTurned rootName document resolver key out ∧
      ∀ part part' reference reference', Refers rootName document resolver part reference →
        Refers rootName document resolver part' reference' →
        ((turn rootName key (part.map key) reference = turn rootName key (part'.map key) reference' ∧
            placeOf rootName part reference ≠ placeOf rootName part' reference') ↔
          Confused document key (placeOf rootName part reference)
            (placeOf rootName part' reference')) := by
  obtain ⟨key, hturned⟩ := isTurned_of_bundle h
  refine ⟨key, hturned, fun part part' reference reference' hrefers hrefers' =>
    ⟨fun ⟨hsame, hne⟩ => ?_, fun hconfused => ?_⟩⟩
  · have hfragment := congrArg (Text.behind '#') hsame
    rw [behind_turn, behind_turn] at hfragment
    unfold placeOf at hfragment hne ⊢
    rcases hrefers.place with ⟨hled, hdenotes⟩ | ⟨name, hled, hneeded⟩ <;>
      rcases hrefers'.place with ⟨hled', hdenotes'⟩ | ⟨other, hled', hneeded'⟩ <;>
      rw [hled, hled'] at hfragment hne ⊢
    · exact absurd (congrArg (Prod.mk none) hfragment) hne
    · exact confused_of_document (hturned.isKey other hneeded') (hturned.fresh other hneeded')
        hdenotes hfragment
    · exact (confused_of_document (hturned.isKey name hneeded) (hturned.fresh name hneeded)
        hdenotes' hfragment.symm).symm
    · exact confused_of_copies (hturned.isKey name hneeded) (hturned.isKey other hneeded')
        (hturned.distinct name other hneeded hneeded') hfragment hne
  · obtain ⟨hfragment, hnonempty, hne⟩ := hconfused.fragmentOf
    exact ⟨turn_eq_of_fragmentOf hfragment hnonempty, hne⟩

/-- A house with two doors, which are described by anchors of the same name. -/
def houseDocument : Value :=
  .object [("properties", .object [("back", .object [("$ref", .string "back#door")]),
    ("front", .object [("$ref", .string "front#door")])])]

def houseParts : Resolver where
  names := ["back", "front"]
  resolve name := .ok (.object [("$anchor", .string "door"), ("title", .string name)])

/-- After bundling, both doors are the same. -/
theorem references_apart_iff_of_house :
    ∃ out key, bundle "house" houseDocument houseParts = .ok out ∧
      IsTurned "house" houseDocument houseParts key out ∧
      turn "house" key none "back#door" = turn "house" key none "front#door" := by
  obtain ⟨out, hout⟩ : ∃ out, bundle "house" houseDocument houseParts = .ok out := ⟨_, rfl⟩
  obtain ⟨key, hturned, hapart⟩ := references_apart_iff hout
  have hrefers : ∀ name, name ∈ targets "house" (bundleSource houseDocument) →
      leadsTo "house" none (name ++ "#door") = some name →
      Text.behind '#' (name ++ "#door") = "door" →
      name ++ "#door" ∈ visited (bundleSource houseDocument) →
      Refers "house" houseDocument houseParts none (name ++ "#door") := by
    intro name hname hled hbehind hvisited
    refine ⟨⟨houseDocument, .root, hvisited⟩, ?_⟩
    rw [hled, hbehind]
    refine ⟨_, .copy (.asked hname) rfl, ?_⟩
    exact @Denotes.anchor _ _ [] (by decide) rfl
  have hback := hrefers "back" (by decide) (by decide) (by decide) (by decide)
  have hfront := hrefers "front" (by decide) (by decide) (by decide) (by decide)
  have hconfused : Confused houseDocument key (placeOf "house" none "back#door")
      (placeOf "house" none "front#door") := by
    have hanchor : IsAnchor "door" := by decide
    exact .anchor hanchor (by decide)
  exact ⟨out, key, hout, hturned, ((hapart none none _ _ hback hfront).2 hconfused).1⟩

end Schemata.Bundle
