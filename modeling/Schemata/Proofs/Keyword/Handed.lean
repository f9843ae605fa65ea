import Schemata.Proofs.Keyword.Parts

/-!
# Values that are handed to expansions

Values of keywords are checked before any keyword is expanded, and each keyword is then expanded
everywhere, inner places first. So what an expansion gets need not be what was checked: it may stand
inside another value, it may have been changed by what was expanded inside of it, and it may come
from another expansion. Here expansion is done once more so that it notes what it hands over. All of
it was checked if and only if this is so for documents with nothing but one value of one keyword, and
it is so in each document in which neither the values nor their expansions have keywords in them.

    expansion that takes notes is expansion, and notes what is handed over   (expandNoting_run)
    whether all that is handed over was checked is a matter of parts    (handsChecked_partwise)
    all that is handed over was checked ↔ it was for each keyword by itself
                                                        (expandsOnlyChecked_iff)
-/

namespace Schemata

open Json (Value)

/-! ## Algorithm -/

namespace Keyword

mutual
/-- Expands a keyword in a document, and notes each value that it hands to the expansion. -/
def expandNoting (keyword : Keyword) : Value → StateM (List Value) Value
  | .object members => do
    let members ← expandMembersNoting keyword members
    match Entries.get? members keyword.name with
    | some value => do
      modify fun noted => noted ++ [value]
      return .object (pushAllOf (Entries.without members keyword.name) (keyword.expand value))
    | none => return .object members
  | .array items => do return .array (← expandItemsNoting keyword items)
  | other => return other

def expandItemsNoting (keyword : Keyword) : List Value → StateM (List Value) (List Value)
  | [] => return []
  | item :: items => do
    let item ← expandNoting keyword item
    let items ← expandItemsNoting keyword items
    return item :: items

def expandMembersNoting (keyword : Keyword) :
    List (String × Value) → StateM (List Value) (List (String × Value))
  | [] => return []
  | (key, member) :: members => do
    let member ← if dataKeys.contains key then pure member else expandNoting keyword member
    let members ← expandMembersNoting keyword members
    return (key, member) :: members
end

mutual
/-- The values that are handed to a keyword's expansion, in order: inner ones first, and as they are
when everything inside of them is expanded. -/
def handed (keyword : Keyword) : Value → List Value
  | .object members =>
    handedInMembers keyword members ++
      (Entries.get? (expandMembers keyword members) keyword.name).toList
  | .array items => handedInItems keyword items
  | _ => []

def handedInItems (keyword : Keyword) : List Value → List Value
  | [] => []
  | item :: items => handed keyword item ++ handedInItems keyword items

def handedInMembers (keyword : Keyword) : List (String × Value) → List Value
  | [] => []
  | (key, member) :: members =>
    (if dataKeys.contains key then [] else handed keyword member) ++
      handedInMembers keyword members
end

end Keyword

namespace Engine

def expandAllNoting (keywords : List InstalledKeyword) (document : Value) :
    StateM (List (InstalledKeyword × Value)) Value :=
  keywords.foldlM (fun document installed => do
    let (expanded, noted) := (installed.keyword.expandNoting document).run []
    modify fun all => all ++ noted.map fun value => (installed, value)
    return expanded) document

def prepareNoting (engine : Engine) (name : String) (document : Value) (resolver : Resolver) :
    Except Failure (Value × List (InstalledKeyword × Value)) := do
  let bundled ← bundle name document resolver
  match wrongValue? engine.keywords bundled with
  | some (keyword, value) =>
    .error (.compile name ("invalid value " ++ value.compact ++ " for keyword '" ++ keyword ++ "'"))
  | none => pure ((expandAllNoting engine.keywords bundled).run [])

def handedAll : List InstalledKeyword → Value → List (InstalledKeyword × Value)
  | [], _ => []
  | installed :: keywords, document =>
    (installed.keyword.handed document).map (fun value => (installed, value)) ++
      handedAll keywords (installed.keyword.expandIn document)

/-- Whatever is prepared, each value that is handed to the expansion of a keyword satisfies the
schema of the keyword's values. -/
def ExpandsOnlyChecked (engine : Engine) : Prop :=
  ∀ name document resolver prepared noted,
    engine.prepareNoting name document resolver = .ok (prepared, noted) →
      ∀ entry ∈ noted, entry.1.accepts entry.2

/-- All values that are handed to the keywords in a document satisfy their schemas. -/
def HandsChecked (keywords : List InstalledKeyword) (document : Value) : Prop :=
  ∀ entry ∈ handedAll keywords document, entry.1.accepts entry.2

/-- A value has none of the keywords in it, and neither has its expansion. -/
def Plain (keywords : List InstalledKeyword) (installed : InstalledKeyword) (value : Value) : Prop :=
  FreeOf keywords value ∧ FreeOf keywords (installed.keyword.expand value)

end Engine

/-! ## Taking notes -/

namespace Keyword

variable {keyword : Keyword}

/-- Noting goes on where it stopped. -/
theorem run_bind {α β σ : Type} (first : StateM σ α) (next : α → StateM σ β) (noted : σ) :
    (first >>= next).run noted = (next (first.run noted).1).run (first.run noted).2 := rfl

mutual
/-- Noting changes nothing, and notes what is handed over. -/
theorem expandNoting_run : ∀ (document : Value) (noted : List Value),
    (keyword.expandNoting document).run noted =
      (keyword.expandIn document, noted ++ handed keyword document)
  | .object members, noted => by
    unfold expandNoting expandIn expandHere handed
    rw [run_bind, expandMembersNoting_run members noted]
    dsimp only
    cases Entries.get? (expandMembers keyword members) keyword.name with
    | none =>
      rw [Option.toList_none, List.append_nil]
      rfl
    | some value =>
      rw [Option.toList_some, ← List.append_assoc]
      rfl
  | .array items, noted => by
    unfold expandNoting expandIn handed
    rw [run_bind, expandItemsNoting_run items noted]
    rfl
  | .null, noted | .bool _, noted | .number _, noted | .string _, noted =>
    congrArg (Prod.mk _) (List.append_nil noted).symm

theorem expandItemsNoting_run : ∀ (items : List Value) (noted : List Value),
    (keyword.expandItemsNoting items).run noted =
      (keyword.expandItems items, noted ++ handedInItems keyword items)
  | [], noted => by
    rw [handedInItems, List.append_nil]
    rfl
  | item :: items, noted => by
    unfold expandItemsNoting expandItems handedInItems
    rw [run_bind, expandNoting_run item noted, run_bind, expandItemsNoting_run items,
      ← List.append_assoc]
    rfl

theorem expandMembersNoting_run : ∀ (members : List (String × Value)) (noted : List Value),
    (keyword.expandMembersNoting members).run noted =
      (keyword.expandMembers members, noted ++ handedInMembers keyword members)
  | [], noted => by
    rw [handedInMembers, List.append_nil]
    rfl
  | (key, member) :: members, noted => by
    unfold expandMembersNoting expandMembers handedInMembers
    dsimp only
    split
    · rw [run_bind, run_bind, expandMembersNoting_run members]
      rfl
    · rw [run_bind, expandNoting_run member noted, run_bind, expandMembersNoting_run members,
        ← List.append_assoc]
      rfl
end

end Keyword

namespace Engine

variable {keywords : List InstalledKeyword}

theorem expandAllNoting_run (document : Value) (noted : List (InstalledKeyword × Value)) :
    (expandAllNoting keywords document).run noted =
      (expandAll keywords document, noted ++ handedAll keywords document) := by
  unfold expandAllNoting expandAll
  induction keywords generalizing document noted with
  | nil => exact congrArg (Prod.mk document) (List.append_nil noted).symm
  | cons installed keywords ih =>
    rw [List.foldlM_cons, Keyword.run_bind, Keyword.expandNoting_run, List.nil_append]
    dsimp only
    rw [handedAll, ← List.append_assoc]
    exact ih _ _

/-- Taking notes aside, noting is preparing. -/
theorem prepareNoting_fst (engine : Engine) (name : String) (document : Value)
    (resolver : Resolver) :
    (engine.prepareNoting name document resolver).map (·.1) =
      engine.prepare name document resolver := by
  unfold prepareNoting prepare
  cases bundle name document resolver with
  | error failure => rfl
  | ok bundled =>
    rw [ok_bind, ok_bind]
    cases wrongValue? engine.keywords bundled with
    | some wrong => rfl
    | none =>
      dsimp only
      rw [expandAllNoting_run]
      rfl

/-- What is noted is what is handed over in the bundle, and the bundle passed the check. -/
theorem prepareNoting_ok_iff {engine : Engine} {name : String} {document prepared : Value}
    {resolver : Resolver} {noted : List (InstalledKeyword × Value)} :
    engine.prepareNoting name document resolver = .ok (prepared, noted) ↔
      ∃ bundled, bundle name document resolver = .ok bundled ∧
        PassesCheck engine.keywords bundled ∧ prepared = expandAll engine.keywords bundled ∧
        noted = handedAll engine.keywords bundled := by
  unfold prepareNoting
  rw [bind_eq_ok_iff]
  refine exists_congr fun bundled => and_congr_right fun _ => ?_
  rw [← wrongValue?_eq_none_iff]
  cases wrongValue? engine.keywords bundled with
  | some wrong => simp
  | none =>
    dsimp only
    rw [expandAllNoting_run]
    simp [eq_comm]

end Engine

/-! ## One keyword -/

namespace Keyword

variable {keyword : Keyword} {name : String}

theorem mem_handedInItems {items : List Value} {value : Value} :
    value ∈ handedInItems keyword items ↔ ∃ item ∈ items, value ∈ handed keyword item := by
  induction items with
  | nil => simp [handedInItems]
  | cons item items ih => simp [handedInItems, ih]

theorem mem_handedInMembers {members : List (String × Value)} {value : Value} :
    value ∈ handedInMembers keyword members ↔
      ∃ member ∈ members, value ∈ handedInMembers keyword [member] := by
  induction members with
  | nil => simp [handedInMembers]
  | cons member members ih => simp [handedInMembers, ih]

theorem handed_single_of_ne (hname : name ≠ keyword.name) (member : Value) :
    handed keyword (.object [(name, member)]) =
      if dataKeys.contains name then [] else handed keyword member := by
  simp [handed, handedInMembers, expandMembers, Entries.get?, hname]

theorem handed_single_self (hdata : keyword.name ∉ dataKeys) (member : Value) :
    handed keyword (.object [(keyword.name, member)]) =
      handed keyword member ++ [keyword.expandIn member] := by
  simp [handed, handedInMembers, expandMembers, Entries.get?, hdata]

/-- What is handed over in an object is handed over for one of its members. -/
theorem handed_object (hdata : keyword.name ∉ dataKeys) {members : List (String × Value)}
    {value : Value} (h : value ∈ handed keyword (.object members)) :
    ∃ member ∈ members, value ∈ handed keyword (.object [member]) := by
  rw [handed] at h
  rcases List.mem_append.1 h with hinner | hown
  · obtain ⟨member, hmember, hvalue⟩ := mem_handedInMembers.1 hinner
    exact ⟨member, hmember, List.mem_append_left _ hvalue⟩
  · obtain ⟨inner, hmember, rfl⟩ := get?_expandMembers_self hdata (Option.mem_toList.1 hown)
    refine ⟨_, hmember, ?_⟩
    rw [handed_single_self hdata]
    exact List.mem_append_right _ (List.mem_singleton.2 rfl)

mutual
/-- Where a keyword does not occur, nothing is handed over. -/
theorem handed_eq_nil (hall : keyword.name ≠ "allOf") : ∀ {document : Value},
    occurrences keyword.name document = [] → handed keyword document = []
  | .object members, h => by
    obtain ⟨hinner, habsent⟩ := (expandMembers_eq_self_iff hall).2 h
    rw [handed, handedInMembers_eq_nil hall h, hinner,
      (Entries.get?_eq_none_iff members keyword.name).2 habsent]
    rfl
  | .array items, h => handedInItems_eq_nil hall h
  | .null, _ | .bool _, _ | .number _, _ | .string _, _ => rfl

theorem handedInItems_eq_nil (hall : keyword.name ≠ "allOf") : ∀ {items : List Value},
    occurrencesInItems keyword.name items = [] → handedInItems keyword items = []
  | [], _ => rfl
  | item :: items, h => by
    obtain ⟨hitem, hitems⟩ := List.append_eq_nil_iff.1 h
    rw [handedInItems, handed_eq_nil hall hitem, handedInItems_eq_nil hall hitems]
    rfl

theorem handedInMembers_eq_nil (hall : keyword.name ≠ "allOf") :
    ∀ {members : List (String × Value)},
      occurrencesInMembers keyword.name members = [] → handedInMembers keyword members = []
  | [], _ => rfl
  | (key, member) :: members, h => by
    rw [occurrencesInMembers_cons] at h
    obtain ⟨hmember, hmembers⟩ := List.append_eq_nil_iff.1 h
    rw [handedInMembers, handedInMembers_eq_nil hall hmembers, List.append_nil]
    split at hmember
    · cases hmember
    · split at hmember
      · next hdata => rw [if_pos hdata]
      · next hdata =>
        rw [if_neg hdata]
        exact handed_eq_nil hall hmember
end

end Keyword

/-! ## All keywords -/

namespace Engine

variable {keywords : List InstalledKeyword} {installed : InstalledKeyword}

/-- Below a member that no keyword is named after, all goes on as without the member. -/
theorem handedAll_single {key : String} (hdata : key ∉ dataKeys)
    (hkey : ∀ installed ∈ keywords, installed.keyword.name ≠ key) (member : Value) :
    handedAll keywords (.object [(key, member)]) = handedAll keywords member := by
  induction keywords generalizing member with
  | nil => rfl
  | cons installed keywords ih =>
    have hne := Ne.symm (hkey installed List.mem_cons_self)
    have hcontains := mt List.contains_iff_mem.1 hdata
    rw [handedAll, Keyword.handed_single_of_ne hne, Keyword.expandIn_single_of_ne hne,
      if_neg hcontains, if_neg hcontains,
      ih fun other hother => hkey other (List.mem_cons_of_mem installed hother)]
    rfl

/-! ## Single values -/

variable {holds : InstalledKeyword → Value → Prop}

/-- Nothing is handed over in a document that each keyword leaves alone. -/
theorem handedAll_eq_nil {document : Value}
    (h : ∀ installed ∈ keywords, installed.keyword.handed document = [] ∧
      installed.keyword.expandIn document = document) : handedAll keywords document = [] := by
  induction keywords with
  | nil => rfl
  | cons installed keywords ih =>
    obtain ⟨hnothing, hsame⟩ := h installed List.mem_cons_self
    rw [handedAll, hnothing, hsame, ih fun other hother => h other (List.mem_cons_of_mem installed hother)]
    rfl

/-- Whether what is handed over for a keyword was checked is a matter of the parts of a document. -/
theorem handed_partwise (hnamed : Named keywords) (hmem : installed ∈ keywords) :
    Partwise keywords fun document =>
      ∀ value ∈ installed.keyword.handed document, installed.accepts value where
  object hmembers value hvalue := by
    obtain ⟨member, hmember, hvalue⟩ := Keyword.handed_object (hnamed installed hmem).1 hvalue
    exact hmembers member hmember value hvalue
  array := by
    intro items
    simp only [Keyword.handed, Keyword.mem_handedInItems]
    exact ⟨fun h item hitem value hvalue => h value ⟨item, hitem, hvalue⟩,
      fun h value ⟨item, hitem, hvalue⟩ => h item hitem value hvalue⟩
  leaf := by
    rintro (_ | _ | _ | _ | _ | _) hleaf <;> first | exact List.forall_mem_nil _ | cases hleaf
  data := by
    intro key hdata value
    have hne : key ≠ installed.keyword.name := by
      rintro rfl
      exact (hnamed installed hmem).1 hdata
    rw [Keyword.handed_single_of_ne hne, if_pos (List.contains_iff_mem.2 hdata)]
    exact List.forall_mem_nil _
  member := by
    intro key hdata hkey value
    rw [Keyword.handed_single_of_ne (Ne.symm (hkey installed hmem)),
      if_neg (mt List.contains_iff_mem.1 hdata)]

theorem handsChecked_cons_iff {document : Value} :
    HandsChecked (installed :: keywords) document ↔
      (∀ value ∈ installed.keyword.handed document, installed.accepts value) ∧
        HandsChecked keywords (installed.keyword.expandIn document) := by
  unfold HandsChecked
  rw [handedAll, List.forall_mem_append, List.forall_mem_map]

theorem handsChecked_partwise {all : List InstalledKeyword} (hnamed : Named all)
    (hsub : keywords ⊆ all) : Partwise all (HandsChecked keywords) := by
  induction keywords with
  | nil =>
    have hall : ∀ document, HandsChecked [] document := fun _ => List.forall_mem_nil _
    exact ⟨fun _ => hall _, ⟨fun _ _ _ => hall _, fun _ => hall _⟩, fun _ => hall _,
      fun _ _ => hall _, fun _ _ _ => ⟨fun _ => hall _, fun _ => hall _⟩⟩
  | cons installed keywords ih =>
    obtain ⟨hmem, hrest⟩ := List.cons_subset.1 hsub
    have hcons : HandsChecked (installed :: keywords) = fun document =>
        (∀ value ∈ installed.keyword.handed document, installed.accepts value) ∧
          HandsChecked keywords (installed.keyword.expandIn document) :=
      funext fun _ => propext handsChecked_cons_iff
    rw [hcons]
    exact (handed_partwise hnamed hmem).and ((ih hrest).expandIn hnamed hmem)

/-- If all that is handed over for one value of one keyword was checked as long as something holds of
the value, then so it is in every document with such values. -/
theorem handsChecked_of_alone (hnamed : Named keywords)
    (halone : ∀ installed ∈ keywords, ∀ value,
      EachValue holds keywords (alone installed value) → HandsChecked keywords (alone installed value))
    {document : Value} : EachValue holds keywords document → HandsChecked keywords document :=
  (handsChecked_partwise hnamed (List.Subset.refl keywords)).of_inherited EachValue.inherited
    fun installed hmem value _ => halone installed hmem value

/-! ## Plain values -/

theorem FreeOf.handedAll {document : Value} (hnamed : Named keywords)
    (h : FreeOf keywords document) : handedAll keywords document = [] :=
  handedAll_eq_nil fun installed hmem =>
    ⟨Keyword.handed_eq_nil (hnamed installed hmem).2.1 (h installed hmem),
      (Keyword.expandIn_eq_self_iff (hnamed installed hmem).2.1).2 (h installed hmem)⟩

/-- A plain value by itself is handed over as it was checked, and nothing else is. -/
theorem handsChecked_alone_of_plain {all : List InstalledKeyword} (hnamed : Named all)
    (hsub : keywords ⊆ all) (hmem : installed ∈ all) {value : Value}
    (hholds : EachValue (fun installed value => installed.accepts value ∧ Plain all installed value) all
      (alone installed value)) : HandsChecked keywords (alone installed value) := by
  have hfree := (hholds.alone_self hmem rfl).2.1
  induction keywords with
  | nil => exact List.forall_mem_nil _
  | cons first keywords ih =>
    obtain ⟨hfirst, hrest⟩ := List.cons_subset.1 hsub
    obtain ⟨hdata, hall, -⟩ := hnamed first hfirst
    have hnothing := Keyword.handed_eq_nil hall (hfree first hfirst)
    have hsame := (Keyword.expandIn_eq_self_iff hall).2 (hfree first hfirst)
    unfold HandsChecked
    rw [handedAll, List.forall_mem_append]
    by_cases hname : first.keyword.name = installed.keyword.name
    · obtain ⟨haccepts, -, hexpansion⟩ := hholds.alone_self hfirst hname
      have hself : alone installed value = .object [(first.keyword.name, value)] := by
        rw [alone, hname]
      have hdone : handedAll keywords (.object [("allOf", .array [first.keyword.expand value])]) = [] := by
        rw [handedAll_single (by decide) fun other hother => (hnamed other (hrest hother)).2.1]
        refine FreeOf.handedAll (fun other hother => hnamed other (hrest hother)) ?_
        intro other hother
        rw [Keyword.occurrences, Keyword.occurrencesInItems, hexpansion other (hrest hother)]
        rfl
      rw [hself, Keyword.handed_single_self hdata, Keyword.expandIn_single_self,
        if_neg (mt List.contains_iff_mem.1 hdata), hnothing, hsame, hdone]
      refine ⟨?_, List.forall_mem_nil _⟩
      intro entry hentry
      obtain rfl := List.mem_singleton.1 hentry
      exact haccepts
    · have hne := Ne.symm hname
      have hkept : first.keyword.expandIn (alone installed value) = alone installed value := by
        rw [alone, Keyword.expandIn_single_of_ne hne, hsame, ite_self]
      rw [hkept, alone, Keyword.handed_single_of_ne hne, hnothing, ite_self]
      exact ⟨List.forall_mem_nil _, ih hrest⟩

/-! ## Top theorem -/

/-- Preparing takes notes without doing anything else. All values that are handed to the expansions of
keywords were checked, whatever is prepared, if and only if they are in documents with nothing but
one value of one keyword that passes the check. They are in any document that is prepared if the
values of keywords in its bundle have no keywords in them, and their expansions have none either. -/
theorem expandsOnlyChecked_iff {engine : Engine} (hbuilt : engine.Built) :
    (∀ name document resolver, (engine.prepareNoting name document resolver).map (·.1) =
      engine.prepare name document resolver) ∧
    (engine.ExpandsOnlyChecked ↔ ∀ installed ∈ engine.keywords, ∀ value,
      PassesCheck engine.keywords (alone installed value) →
        HandsChecked engine.keywords (alone installed value)) ∧
    (∀ name document resolver bundled prepared noted, bundle name document resolver = .ok bundled →
      EachValue (Plain engine.keywords) engine.keywords bundled →
      engine.prepareNoting name document resolver = .ok (prepared, noted) →
        ∀ entry ∈ noted, entry.1.accepts entry.2) := by
  have hnamed := hbuilt.named
  have href : ∀ other ∈ engine.keywords, other.keyword.name ≠ "$ref" :=
    fun other hother => (hnamed other hother).2.2
  refine ⟨prepareNoting_fst engine, ⟨fun hchecked installed _ value hpasses => ?_, ?_⟩, ?_⟩
  · have hprepared := prepareNoting_ok_iff.2 ⟨_, bundle_ref [(installed.keyword.name, value)]
      ⟨[], fun name => .error (.schemaNotFound name)⟩,
      (eachValue_single_iff (by decide) href).2 hpasses, rfl, rfl⟩
    have hall := hchecked _ _ _ _ _ hprepared
    rw [handedAll_single (by decide) href] at hall
    exact hall
  · intro halone name document resolver prepared noted hprepared
    obtain ⟨bundled, -, hpasses, -, rfl⟩ := prepareNoting_ok_iff.1 hprepared
    exact handsChecked_of_alone hnamed halone hpasses
  · intro name document resolver bundled prepared noted hbundle hplain hprepared
    obtain ⟨other, hother, hpasses, -, rfl⟩ := prepareNoting_ok_iff.1 hprepared
    obtain rfl := Except.ok.inj (hbundle.symm.trans hother)
    refine handsChecked_of_alone hnamed (fun installed hmem value hholds =>
      handsChecked_alone_of_plain hnamed (List.Subset.refl _) hmem hholds) ?_
    exact fun installed hmem value hvalue =>
      ⟨hpasses installed hmem value hvalue, hplain installed hmem value hvalue⟩

def nullableKeyword : Keyword where
  name := "x-nullable"
  metaSchema := some (.object [("type", .string "object")])
  template := some (.object [("anyOf", .array [.string "$value", .object [("type", .string "null")]])])
  expander := none

/-- A number stands for no schema, but within a schema that may be missing it passes for one. -/
theorem expandsOnlyChecked_of_nullable :
    ∃ engine, Engine.empty.addKeyword nullableKeyword = .ok engine ∧
      ¬ engine.ExpandsOnlyChecked ∧
      (engine.prepare "course" (.object [("x-nullable", .object [("x-nullable", .ofInt 7)])])
        ⟨[], fun name => .error (.schemaNotFound name)⟩).isOk ∧
      ¬ (engine.prepare "course" (.object [("x-nullable", .ofInt 7)])
        ⟨[], fun name => .error (.schemaNotFound name)⟩).isOk := by
  obtain ⟨engine, hadded⟩ : ∃ engine, Engine.empty.addKeyword nullableKeyword = .ok engine := ⟨_, rfl⟩
  have hiff := (expandsOnlyChecked_iff (.addKeyword .empty hadded)).2.1
  cases hadded
  refine ⟨_, rfl, fun hchecked => ?_, by decide +kernel, by decide +kernel⟩
  have hall := hiff.1 hchecked _ (List.mem_singleton.2 rfl) (.object [("x-nullable", .ofInt 7)])
    (by unfold PassesCheck EachValue; decide +kernel)
  exact absurd hall (by unfold HandsChecked; decide +kernel)

end Engine

end Schemata
