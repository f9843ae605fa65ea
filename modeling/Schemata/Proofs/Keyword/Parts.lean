import Schemata.Proofs.Keyword.PropertyNames

/-!
# Documents part by part

What happens to keywords in a document happens to the parts of the document. A property of documents
that is one of their parts, and stays one when a keyword is expanded first, holds of all documents
that satisfy what their parts inherit, as soon as it holds of those with a single value of a keyword.

    the members of an object after expansion                                 (mem_expandHere)
    a property of parts is one of parts before an expansion               (Partwise.expandIn)
    it holds of all documents if it holds of single values               (Partwise.of_inherited)
-/

namespace Schemata

open Json (Value)

/-! ## Algorithm -/

def InstalledKeyword.accepts (installed : InstalledKeyword) (value : Value) : Bool :=
  installed.validator.all fun validator => validator.isValid value

namespace Engine

/-- The names of keywords are no names of data, and none of them is in the way of expansions or of
references. -/
def Named (keywords : List InstalledKeyword) : Prop :=
  ∀ installed ∈ keywords, installed.keyword.name ∉ dataKeys ∧ installed.keyword.name ≠ "allOf" ∧
    installed.keyword.name ≠ "$ref"

/-- A document with a value of a keyword and nothing else. -/
def alone (installed : InstalledKeyword) (value : Value) : Value :=
  .object [(installed.keyword.name, value)]

/-- Something holds of all values of the keywords in a document, those inside other values aside. -/
def EachValue (holds : InstalledKeyword → Value → Prop) (keywords : List InstalledKeyword)
    (document : Value) : Prop :=
  ∀ installed ∈ keywords, ∀ value ∈ Keyword.occurrences installed.keyword.name document,
    holds installed value

/-- The values of the keywords in a document pass the check before the expansion. -/
def PassesCheck (keywords : List InstalledKeyword) (document : Value) : Prop :=
  EachValue (fun installed value => installed.accepts value) keywords document

/-- None of the keywords occurs in a document. -/
def FreeOf (keywords : List InstalledKeyword) (document : Value) : Prop :=
  ∀ installed ∈ keywords, Keyword.occurrences installed.keyword.name document = []

/-- Whether a document has no parts. -/
def isLeaf : Value → Bool
  | .object _ | .array _ => false
  | _ => true

/-- A property of parts. It holds of an object if it holds of each member by itself, of an array if
and only if it holds of each item, and of everything that has no parts. Below a name that is no name
of a keyword it holds if and only if it does without the name, and it always holds of data. -/
structure Partwise (keywords : List InstalledKeyword) (good : Value → Prop) : Prop where
  object : ∀ {members}, (∀ member ∈ members, good (.object [member])) → good (.object members)
  array : ∀ {items}, good (.array items) ↔ ∀ item ∈ items, good item
  leaf : ∀ {value}, isLeaf value = true → good value
  data : ∀ {key}, key ∈ dataKeys → ∀ value, good (.object [(key, value)])
  member : ∀ {key}, key ∉ dataKeys → (∀ installed ∈ keywords, installed.keyword.name ≠ key) →
    ∀ {value}, good (.object [(key, value)]) ↔ good value

/-- A property that parts inherit: the members of an object by themselves, the items of an array, and
what stands below a name that is no name of a keyword. -/
structure Inherited (keywords : List InstalledKeyword) (holds : Value → Prop) : Prop where
  single : ∀ {members}, holds (.object members) → ∀ {member}, member ∈ members →
    holds (.object [member])
  item : ∀ {items}, holds (.array items) → ∀ {item}, item ∈ items → holds item
  member : ∀ {key}, key ∉ dataKeys → (∀ installed ∈ keywords, installed.keyword.name ≠ key) →
    ∀ {value}, holds (.object [(key, value)]) → holds value

end Engine

/-! ## Members after expansion -/

namespace Keyword

variable {keyword : Keyword}

/-- What is found under the keyword when everything inside is expanded was there before. -/
theorem get?_expandMembers_self (hdata : keyword.name ∉ dataKeys)
    {members : List (String × Value)} {expanded : Value}
    (h : Entries.get? (expandMembers keyword members) keyword.name = some expanded) :
    ∃ value, (keyword.name, value) ∈ members ∧ expanded = keyword.expandIn value := by
  obtain ⟨⟨key, value⟩, hmember, heq⟩ := mem_expandMembers.1 (Entries.mem_of_get? h)
  obtain ⟨rfl, rfl⟩ := Prod.mk.inj heq
  refine ⟨value, hmember, ?_⟩
  dsimp only
  rw [if_neg (mt List.contains_iff_mem.1 hdata)]

theorem expandIn_single_of_mem {members : List (String × Value)} {entry : String × Value}
    (h : entry ∈ expandMembers keyword members) (hne : entry.1 ≠ keyword.name) :
    ∃ member ∈ members, keyword.expandIn (.object [member]) = .object [entry] := by
  obtain ⟨⟨key, value⟩, hmember, rfl⟩ := mem_expandMembers.1 h
  exact ⟨_, hmember, expandIn_single_of_ne hne value⟩

/-- The members of an object after expansion. Each comes of a single member by itself, unless it is an
`allOf` with an expansion in it; then the branches before the expansion do, if there are any. -/
theorem mem_expandHere (hdata : keyword.name ∉ dataKeys) {members : List (String × Value)}
    {entry : String × Value} (h : entry ∈ expandHere keyword (expandMembers keyword members)) :
    (∃ member ∈ members, keyword.expandIn (.object [member]) = .object [entry]) ∨
    ∃ branches value, entry =
        ("allOf", .array (branches ++ [keyword.expand (keyword.expandIn value)])) ∧
      (keyword.name, value) ∈ members ∧
      (branches ≠ [] → ∃ member ∈ members,
        keyword.expandIn (.object [member]) = .object [("allOf", .array branches)]) := by
  unfold expandHere at h
  cases hget : Entries.get? (expandMembers keyword members) keyword.name with
  | none =>
    rw [hget] at h
    refine Or.inl (expandIn_single_of_mem h fun heq => ?_)
    rw [Entries.get?_eq_none_iff, ← heq] at hget
    exact hget (List.mem_map_of_mem h)
  | some expanded =>
    rw [hget] at h
    obtain ⟨value, hvalue, rfl⟩ := get?_expandMembers_self hdata hget
    dsimp only at h
    unfold pushAllOf at h
    split at h
    · next branches hbranches =>
      rcases Entries.mem_put _ _ _ _ h with rfl | hold
      · refine Or.inr ⟨branches, value, rfl, hvalue, fun _ => ?_⟩
        obtain ⟨hmem, hne⟩ := Entries.mem_without.1 (Entries.mem_of_get? hbranches)
        exact expandIn_single_of_mem hmem hne
      · obtain ⟨hmem, hne⟩ := Entries.mem_without.1 hold
        exact Or.inl (expandIn_single_of_mem hmem hne)
    · rcases Entries.mem_put _ _ _ _ h with rfl | hold
      · exact Or.inr ⟨[], value, rfl, hvalue, fun hnone => absurd rfl hnone⟩
      · obtain ⟨hmem, hne⟩ := Entries.mem_without.1 hold
        exact Or.inl (expandIn_single_of_mem hmem hne)

end Keyword

/-! ## Installed keywords -/

namespace Engine

variable {keywords : List InstalledKeyword} {installed : InstalledKeyword}

theorem Built.named {engine : Engine} (h : engine.Built) : Named engine.keywords := by
  intro installed hmem
  refine ⟨fun hdata => ?_, h.name_ne hmem (by decide), h.name_ne hmem (by decide)⟩
  have hreserved : ∀ name ∈ dataKeys, Text.trim name ∈ reservedKeywords := by decide
  exact h.name_ne hmem (hreserved _ hdata) rfl

theorem wrongValue?_eq_none_iff {document : Value} :
    wrongValue? keywords document = none ↔ PassesCheck keywords document := by
  unfold wrongValue? PassesCheck EachValue
  rw [List.findSome?_eq_none_iff]
  refine forall₂_congr fun installed _ => ?_
  simp only [Option.bind_eq_none_iff, Option.map_eq_none_iff, List.find?_eq_none, Bool.not_eq_true',
    Bool.not_eq_false, InstalledKeyword.accepts, Option.all_eq_true]
  exact ⟨fun h value hmem validator hvalidator => h validator hvalidator value hmem,
    fun h validator hvalidator value hmem => h value hmem validator hvalidator⟩

/-! ## Values of keywords -/

variable {holds : InstalledKeyword → Value → Prop}

theorem eachValue_single_iff {key : String} (hdata : key ∉ dataKeys)
    (hkey : ∀ installed ∈ keywords, installed.keyword.name ≠ key) {member : Value} :
    EachValue holds keywords (.object [(key, member)]) ↔ EachValue holds keywords member := by
  unfold EachValue
  refine forall₂_congr fun installed hmem => ?_
  rw [Keyword.occurrences_single_of_ne (Ne.symm (hkey installed hmem)) hdata]

theorem EachValue.alone_self {value : Value} (h : EachValue holds keywords (alone installed value))
    {other : InstalledKeyword} (hother : other ∈ keywords)
    (hname : other.keyword.name = installed.keyword.name) : holds other value := by
  apply h other hother
  rw [alone, hname, Keyword.occurrences_single_self]
  exact List.mem_singleton.2 rfl

theorem EachValue.inherited : Inherited keywords (EachValue holds keywords) where
  single h _ hmember other hother value hvalue :=
    h other hother value (Keyword.mem_occurrencesInMembers.2 ⟨_, hmember, hvalue⟩)
  item h _ hitem other hother value hvalue :=
    h other hother value (Keyword.mem_occurrencesInItems.2 ⟨_, hitem, hvalue⟩)
  member hdata hkey _ h := (eachValue_single_iff hdata hkey).1 h

theorem FreeOf.partwise (hnamed : Named keywords) : Partwise keywords (FreeOf keywords) where
  object h installed hmem := List.eq_nil_iff_forall_not_mem.2 fun value hvalue => by
    obtain ⟨member, hmember, hvalue⟩ := Keyword.mem_occurrencesInMembers.1 hvalue
    rw [h member hmember installed hmem] at hvalue
    cases hvalue
  array := by
    intro items
    simp only [FreeOf, Keyword.occurrences, List.eq_nil_iff_forall_not_mem,
      Keyword.mem_occurrencesInItems]
    constructor
    · intro h item hitem installed hmem value hvalue
      exact h installed hmem value ⟨item, hitem, hvalue⟩
    · rintro h installed hmem value ⟨item, hitem, hvalue⟩
      exact h item hitem installed hmem value hvalue
  leaf := by
    rintro (_ | _ | _ | _ | _ | _) hleaf installed hmem <;> first | rfl | cases hleaf
  data := by
    intro key hdata value installed hmem
    have hne : key ≠ installed.keyword.name := by
      rintro rfl
      exact (hnamed installed hmem).1 hdata
    rw [Keyword.occurrences, Keyword.occurrencesInMembers_cons, if_neg hne,
      if_pos (List.contains_iff_mem.2 hdata)]
    rfl
  member hdata hkey value := forall₂_congr fun installed hmem => by
    rw [Keyword.occurrences_single_of_ne (Ne.symm (hkey installed hmem)) hdata]

/-! ## Part by part -/

namespace Partwise

variable {good : Value → Prop}

/-- Below an `allOf`, which no keyword is named after, a property of parts is that of the branches. -/
theorem allOf (h : Partwise keywords good) (hnamed : Named keywords) {branches : List Value} :
    good (.object [("allOf", .array branches)]) ↔ ∀ branch ∈ branches, good branch := by
  rw [h.member (by decide) fun installed hmem => (hnamed installed hmem).2.1, h.array]

/-- What is a property of parts is one of parts before a keyword is expanded. -/
theorem expandIn (h : Partwise keywords good) (hnamed : Named keywords)
    (hmem : installed ∈ keywords) :
    Partwise keywords fun document => good (installed.keyword.expandIn document) where
  object := by
    intro members hmembers
    obtain ⟨hdata, -, -⟩ := hnamed installed hmem
    rw [Keyword.expandIn]
    refine h.object fun entry hentry => ?_
    rcases Keyword.mem_expandHere hdata hentry with
      ⟨member, hmember, heq⟩ | ⟨branches, value, rfl, hvalue, hbranches⟩
    · exact heq ▸ hmembers member hmember
    · rw [h.allOf hnamed]
      intro branch hbranch
      rcases List.mem_append.1 hbranch with hold | hnew
      · -- a branch that was there before
        obtain ⟨member, hmember, heq⟩ := hbranches (List.ne_nil_of_mem hold)
        have hgood := hmembers member hmember
        rw [heq, h.allOf hnamed] at hgood
        exact hgood branch hold
      · -- the expansion
        have hgood := hmembers _ hvalue
        rw [Keyword.expandIn_single_self, if_neg (mt List.contains_iff_mem.1 hdata),
          h.allOf hnamed] at hgood
        exact hgood branch hnew
  array := by
    intro items
    rw [Keyword.expandIn, Keyword.expandItems_eq_map, h.array, List.forall_mem_map]
  leaf := by
    rintro (_ | _ | _ | _ | _ | _) hleaf <;> first | exact h.leaf rfl | cases hleaf
  data := by
    intro key hdata value
    have hne : key ≠ installed.keyword.name := by
      rintro rfl
      exact (hnamed installed hmem).1 hdata
    rw [Keyword.expandIn_single_of_ne hne]
    exact h.data hdata _
  member := by
    intro key hdata hkey value
    rw [Keyword.expandIn_single_of_ne (Ne.symm (hkey installed hmem)),
      if_neg (mt List.contains_iff_mem.1 hdata)]
    exact h.member hdata hkey

/-- What are two properties of parts is one. -/
theorem and {other : Value → Prop} (h : Partwise keywords good) (h' : Partwise keywords other) :
    Partwise keywords fun document => good document ∧ other document where
  object hmembers := ⟨h.object fun member hmember => (hmembers member hmember).1,
    h'.object fun member hmember => (hmembers member hmember).2⟩
  array := by
    intro items
    rw [h.array, h'.array]
    exact ⟨fun hboth item hitem => ⟨hboth.1 item hitem, hboth.2 item hitem⟩,
      fun hitems => ⟨fun item hitem => (hitems item hitem).1, fun item hitem => (hitems item hitem).2⟩⟩
  leaf hleaf := ⟨h.leaf hleaf, h'.leaf hleaf⟩
  data hdata value := ⟨h.data hdata value, h'.data hdata value⟩
  member hdata hkey _ := and_congr (h.member hdata hkey) (h'.member hdata hkey)

variable {pre : Value → Prop}

mutual
/-- A property of parts holds of every document with what parts inherit if it holds of each single
value of a keyword with that, as long as it holds of the value. -/
theorem of_inherited (hgood : Partwise keywords good) (hpre : Inherited keywords pre)
    (halone : ∀ installed ∈ keywords, ∀ value, (pre value → good value) →
      pre (alone installed value) → good (alone installed value)) :
    ∀ {document : Value}, pre document → good document
  | .object _, h =>
    hgood.object (of_inherited_members hgood hpre halone fun _ hmember => hpre.single h hmember)
  | .array _, h =>
    hgood.array.2 (of_inherited_items hgood hpre halone fun _ hitem => hpre.item h hitem)
  | .null, _ | .bool _, _ | .number _, _ | .string _, _ => hgood.leaf rfl

theorem of_inherited_items (hgood : Partwise keywords good) (hpre : Inherited keywords pre)
    (halone : ∀ installed ∈ keywords, ∀ value, (pre value → good value) →
      pre (alone installed value) → good (alone installed value)) :
    ∀ {items : List Value}, (∀ item ∈ items, pre item) → ∀ item ∈ items, good item
  | item :: items, h, other, hother => by
    rcases List.mem_cons.1 hother with heq | hother
    · rw [heq]
      exact of_inherited hgood hpre halone (h item List.mem_cons_self)
    · exact of_inherited_items hgood hpre halone
        (fun next hnext => h next (List.mem_cons_of_mem item hnext)) other hother

theorem of_inherited_members (hgood : Partwise keywords good) (hpre : Inherited keywords pre)
    (halone : ∀ installed ∈ keywords, ∀ value, (pre value → good value) →
      pre (alone installed value) → good (alone installed value)) :
    ∀ {members : List (String × Value)}, (∀ member ∈ members, pre (.object [member])) →
      ∀ member ∈ members, good (.object [member])
  | (key, value) :: members, h, other, hother => by
    rcases List.mem_cons.1 hother with heq | hother
    · have hholds := h _ List.mem_cons_self
      rw [heq]
      by_cases hkey : ∃ installed ∈ keywords, installed.keyword.name = key
      · obtain ⟨installed, hmem, hname⟩ := hkey
        rw [← hname] at hholds ⊢
        exact halone installed hmem value
          (fun hvalue => of_inherited hgood hpre halone hvalue) hholds
      · have hkey : ∀ installed ∈ keywords, installed.keyword.name ≠ key :=
          fun installed hmem hname => hkey ⟨installed, hmem, hname⟩
        by_cases hdata : key ∈ dataKeys
        · exact hgood.data hdata value
        · exact (hgood.member hdata hkey).2
            (of_inherited hgood hpre halone (hpre.member hdata hkey hholds))
    · exact of_inherited_members hgood hpre halone
        (fun next hnext => h next (List.mem_cons_of_mem _ hnext)) other hother
end

end Partwise

/-! ## Single values in bundles -/

/-- Nothing below a `$ref` that is no text is bundled. -/
theorem bundle_ref (members : List (String × Value)) (resolver : Resolver) :
    bundle "" (.object [("$ref", .object members)]) resolver =
      .ok (.object [("$ref", .object members)]) := by
  unfold bundle
  dsimp only
  have hkept : (Value.object [("$ref", .object members)]).withoutMember "$id" =
      .object [("$ref", .object members)] := rfl
  rw [hkept, Bundle.rewrite, Bundle.rewriteMembers_cons]
  rfl

end Engine

end Schemata
