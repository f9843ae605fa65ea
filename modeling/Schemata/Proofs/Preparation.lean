import Schemata.Engine
import Schemata.Proofs.Bundle.SelfContained
import Schemata.Proofs.Keyword.Expansion

/-!
# Prepared documents

A prepared document is bundled first, and its keywords are expanded then. What is bundled is
self-contained, but an expansion is not bundled any more: a reference to a schema that it brings in
stays as it is. So the prepared documents of an engine are self-contained as long as its keywords
expand within the document, and for a template that means that the template itself is
self-contained.

    k expands within → v self-contained → v with k expanded is self-contained      (selfContained_expandIn)
    a template expands within ↔ it is self-contained                        (expandsWithin_template_iff)
    all keywords expand within → every prepared document is self-contained
    ... and with one more template ↔ the template is self-contained           (prepare_selfContained)
-/

namespace Schemata

open Json (Value)
open Schemata.Bundle (AllLocal SelfContained visited visitedMember visitedMembers visitedItems)

/-! ## Algorithm -/

/-- Expansions of self-contained values are self-contained. -/
def Keyword.ExpandsWithin (keyword : Keyword) : Prop :=
  ∀ value, SelfContained value → SelfContained (keyword.expand value)

namespace Engine

/-- The engines that there are: changes of one without anything, each of which succeeds. -/
inductive Built : Engine → Prop
  | empty : Built Engine.empty
  | addFormat {engine : Engine} (format : Format.GuardedFormat) (hbuilt : Built engine) :
      Built (engine.addFormat format)
  | addKeyword {engine extended : Engine} {keyword : Keyword} (hbuilt : Built engine)
      (hadded : engine.addKeyword keyword = .ok extended) : Built extended
  | configure {engine : Engine} (assertsFormats : Bool) (hbuilt : Built engine) :
      Built (engine.configure assertsFormats)

/-- Every document that an engine prepares is self-contained, whatever is registered. -/
def PreparesSelfContained (engine : Engine) : Prop :=
  ∀ name document resolver prepared, engine.prepare name document resolver = .ok prepared →
    SelfContained prepared

end Engine

/-! ## Templates -/

theorem Bundle.allLocal_append {first second : List String} :
    AllLocal (first ++ second) ↔ AllLocal first ∧ AllLocal second := List.forall_mem_append

namespace Keyword

/-- The placeholder is no reference within a document. -/
theorem ne_placeholder {reference : String} (h : Text.before '#' reference = "") :
    reference ≠ valuePlaceholder := by
  rintro rfl
  exact absurd h (by decide)

variable {value : Value}

mutual
theorem selfContained_substitute (hvalue : SelfContained value) :
    ∀ {template : Value}, SelfContained template → SelfContained (substitute value template)
  | .object _, h => allLocal_substituteMembers hvalue h
  | .array _, h => allLocal_substituteItems hvalue h
  | .string text, h => by
    unfold substitute
    split
    · exact hvalue
    · exact h
  | .null, h | .bool _, h | .number _, h => h

theorem allLocal_substituteItems (hvalue : SelfContained value) :
    ∀ {items : List Value}, AllLocal (visitedItems items) →
      AllLocal (visitedItems (substituteItems value items))
  | [], h => h
  | item :: items, h => by
    rw [visitedItems, Bundle.allLocal_append] at h
    rw [substituteItems, visitedItems, Bundle.allLocal_append]
    exact ⟨selfContained_substitute hvalue h.1, allLocal_substituteItems hvalue h.2⟩

theorem allLocal_substituteMembers (hvalue : SelfContained value) :
    ∀ {members : List (String × Value)}, AllLocal (visitedMembers members) →
      AllLocal (visitedMembers (substituteMembers value members))
  | [], h => h
  | (key, member) :: members, h => by
    rw [Bundle.visitedMembers_cons, Bundle.allLocal_append] at h
    rw [substituteMembers, Bundle.visitedMembers_cons, Bundle.allLocal_append]
    refine ⟨?_, allLocal_substituteMembers hvalue h.2⟩
    have hmember := h.1
    unfold visitedMember at hmember ⊢
    split at hmember
    · next hkey =>
      rw [if_pos hkey]
      cases member with
      | string reference =>
        have hlocal := hmember reference (List.mem_singleton.2 rfl)
        unfold substitute
        rw [if_neg (ne_placeholder hlocal)]
        exact hmember
      | _ => exact List.forall_mem_nil _
    · next hkey =>
      rw [if_neg hkey]
      exact selfContained_substitute hvalue hmember
end

mutual
/-- A text as the value takes the place of references, and it brings none in elsewhere. -/
theorem visited_substitute (text : String) : ∀ template,
    visited (substitute (.string text) template) =
      (visited template).map fun reference =>
        if reference = valuePlaceholder then text else reference
  | .object members => visited_substituteMembers text members
  | .array items => visited_substituteItems text items
  | .string reference => by
    unfold substitute
    split <;> rfl
  | .null | .bool _ | .number _ => rfl

theorem visited_substituteItems (text : String) : ∀ items,
    visitedItems (substituteItems (.string text) items) =
      (visitedItems items).map fun reference =>
        if reference = valuePlaceholder then text else reference
  | [] => rfl
  | item :: items => by
    rw [substituteItems, visitedItems, visitedItems, visited_substitute text item,
      visited_substituteItems text items, List.map_append]

theorem visited_substituteMembers (text : String) : ∀ members,
    visitedMembers (substituteMembers (.string text) members) =
      (visitedMembers members).map fun reference =>
        if reference = valuePlaceholder then text else reference
  | [] => rfl
  | (key, member) :: members => by
    have hmember : visitedMember key (substitute (.string text) member) =
        (visitedMember key member).map fun reference =>
          if reference = valuePlaceholder then text else reference := by
      unfold visitedMember
      split
      · cases member with
        | string reference =>
          have htext : substitute (.string text) (.string reference) =
              .string (if reference = valuePlaceholder then text else reference) := by
            unfold substitute
            split <;> rfl
          rw [htext]
          rfl
        | _ => rfl
      · exact visited_substitute text member
    rw [substituteMembers, Bundle.visitedMembers_cons, Bundle.visitedMembers_cons, hmember,
      visited_substituteMembers text members, List.map_append]
end

/-- With a text as the value, any reference out of the template stays one. -/
theorem selfContained_of_substitute {template : Value}
    (h : SelfContained (substitute (.string "x") template)) : SelfContained template := by
  intro reference hreference
  by_cases hvalue : reference = valuePlaceholder
  · -- the text itself would be a reference
    have hx : Text.before '#' "x" = "" := by
      apply h
      rw [visited_substitute, List.mem_map]
      exact ⟨reference, hreference, if_pos hvalue⟩
    exact absurd hx (by decide)
  · apply h
    rw [visited_substitute, List.mem_map]
    exact ⟨reference, hreference, if_neg hvalue⟩

variable {keyword : Keyword}

theorem expand_template {template : Value} (htemplate : keyword.template = some template)
    (hexpander : keyword.expander = none) (value : Value) :
    keyword.expand value = substitute value template := by
  unfold expand
  rw [htemplate, hexpander]

/-- A template expands within the document exactly if it is self-contained itself. -/
theorem expandsWithin_template_iff {template : Value} (htemplate : keyword.template = some template)
    (hexpander : keyword.expander = none) :
    keyword.ExpandsWithin ↔ SelfContained template := by
  constructor
  · intro h
    have hx := h (.string "x") (List.forall_mem_nil _)
    rw [expand_template htemplate hexpander] at hx
    exact selfContained_of_substitute hx
  · intro h value hvalue
    rw [expand_template htemplate hexpander]
    exact selfContained_substitute hvalue h

/-! ## Expansion -/

theorem selfContained_pushAllOf {members : List (String × Value)} {expansion : Value}
    (h : SelfContained (.object members)) (hexpansion : SelfContained expansion) :
    SelfContained (.object (pushAllOf members expansion)) := by
  unfold Keyword.pushAllOf
  split
  · next branches hget =>
    have hbranches := Bundle.selfContained_array.1 (h.get? (by decide) hget)
    refine h.put (by decide) (Bundle.selfContained_array.2 fun item hitem => ?_)
    rcases List.mem_append.1 hitem with hold | hnew
    · exact hbranches item hold
    · rw [List.mem_singleton.1 hnew]
      exact hexpansion
  · refine h.put (by decide) (Bundle.selfContained_array.2 fun item hitem => ?_)
    rw [List.mem_singleton.1 hitem]
    exact hexpansion

theorem selfContained_expandHere {members : List (String × Value)} (hwithin : keyword.ExpandsWithin)
    (hname : keyword.name ≠ "$ref") (h : SelfContained (.object members)) :
    SelfContained (.object (expandHere keyword members)) := by
  unfold Keyword.expandHere
  split
  · next value hget =>
    exact selfContained_pushAllOf (h.without keyword.name) (hwithin value (h.get? hname hget))
  · exact h

mutual
/-- A keyword that expands within leaves self-contained documents self-contained. -/
theorem selfContained_expandIn (hwithin : keyword.ExpandsWithin) (hname : keyword.name ≠ "$ref") :
    ∀ {document : Value}, SelfContained document → SelfContained (expandIn keyword document)
  | .object _, h => selfContained_expandHere hwithin hname (allLocal_expandMembers hwithin hname h)
  | .array _, h => allLocal_expandItems hwithin hname h
  | .null, h | .bool _, h | .number _, h | .string _, h => h

theorem allLocal_expandItems (hwithin : keyword.ExpandsWithin) (hname : keyword.name ≠ "$ref") :
    ∀ {items : List Value}, AllLocal (visitedItems items) →
      AllLocal (visitedItems (expandItems keyword items))
  | [], h => h
  | item :: items, h => by
    rw [visitedItems, Bundle.allLocal_append] at h
    rw [expandItems, visitedItems, Bundle.allLocal_append]
    exact ⟨selfContained_expandIn hwithin hname h.1, allLocal_expandItems hwithin hname h.2⟩

theorem allLocal_expandMembers (hwithin : keyword.ExpandsWithin) (hname : keyword.name ≠ "$ref") :
    ∀ {members : List (String × Value)}, AllLocal (visitedMembers members) →
      AllLocal (visitedMembers (expandMembers keyword members))
  | [], h => h
  | (key, member) :: members, h => by
    rw [Bundle.visitedMembers_cons, Bundle.allLocal_append] at h
    rw [expandMembers, Bundle.visitedMembers_cons, Bundle.allLocal_append]
    refine ⟨?_, allLocal_expandMembers hwithin hname h.2⟩
    split
    · exact h.1
    · have hmember := h.1
      unfold visitedMember at hmember ⊢
      split at hmember
      · next hkey =>
        rw [if_pos hkey]
        -- a text is left alone, and nothing else under a `$ref` is a reference
        cases member with
        | string reference => exact hmember
        | _ => exact List.forall_mem_nil _
      · next hkey =>
        rw [if_neg hkey]
        exact selfContained_expandIn hwithin hname hmember
end

end Keyword

namespace Engine

/-! ## Installed keywords -/

variable {engine extended : Engine} {keyword : Keyword}

theorem addKeyword_ok (h : engine.addKeyword keyword = .ok extended) :
    engine.keywordFault? keyword = none ∧ ∃ validator, valueValidator keyword = .ok validator ∧
      extended.keywords = engine.keywords ++ [⟨keyword, validator⟩] := by
  unfold addKeyword at h
  split at h
  · cases h
  · next hfault =>
    obtain ⟨validator, hvalidator, h⟩ := bind_eq_ok_iff.1 h
    cases h
    exact ⟨hfault, validator, hvalidator, rfl⟩

/-- What is installed has no reserved name. -/
theorem name_not_mem_reserved (h : engine.keywordFault? keyword = none) :
    Text.trim keyword.name ∉ reservedKeywords := by
  unfold keywordFault? at h
  dsimp only at h
  split at h
  · cases h
  · split at h
    · cases h
    · next hreserved => exact fun hmem => hreserved (List.contains_iff_mem.2 hmem)

theorem name_ne_of_reserved (h : engine.keywordFault? keyword = none) {name : String}
    (hname : Text.trim name ∈ reservedKeywords) : keyword.name ≠ name := by
  rintro rfl
  exact name_not_mem_reserved h hname

/-- No installed keyword has a reserved name. -/
theorem Built.name_ne (h : engine.Built) {installed : InstalledKeyword}
    (hmem : installed ∈ engine.keywords) {name : String}
    (hname : Text.trim name ∈ reservedKeywords) : installed.keyword.name ≠ name := by
  induction h with
  | empty => cases hmem
  | addFormat _ _ ih => exact ih hmem
  | configure assertsFormats _ ih =>
    unfold Engine.configure at hmem
    split at hmem
    · exact ih hmem
    · exact ih hmem
  | addKeyword _ hadded ih =>
    obtain ⟨hfault, validator, -, hkeywords⟩ := addKeyword_ok hadded
    rw [hkeywords] at hmem
    rcases List.mem_append.1 hmem with hold | hnew
    · exact ih hold
    · rw [List.mem_singleton.1 hnew]
      exact name_ne_of_reserved hfault hname

/-! ## Preparing -/

theorem expandAll_append (first second : List InstalledKeyword) (document : Value) :
    expandAll (first ++ second) document = expandAll second (expandAll first document) :=
  List.foldl_append

theorem expandAll_selfContained {keywords : List InstalledKeyword} {document : Value}
    (hwithin : ∀ installed ∈ keywords, installed.keyword.ExpandsWithin)
    (hnames : ∀ installed ∈ keywords, installed.keyword.name ≠ "$ref")
    (h : SelfContained document) : SelfContained (expandAll keywords document) := by
  unfold expandAll
  induction keywords generalizing document with
  | nil => exact h
  | cons installed keywords ih =>
    have hfirst := Keyword.selfContained_expandIn (hwithin installed List.mem_cons_self)
      (hnames installed List.mem_cons_self) h
    exact ih (fun other hother => hwithin other (List.mem_cons_of_mem installed hother))
      (fun other hother => hnames other (List.mem_cons_of_mem installed hother)) hfirst

theorem prepare_ok {name : String} {document prepared : Value} {resolver : Resolver}
    (h : engine.prepare name document resolver = .ok prepared) :
    ∃ bundled, bundle name document resolver = .ok bundled ∧
      prepared = expandAll engine.keywords bundled := by
  obtain ⟨bundled, hbundle, h⟩ := bind_eq_ok_iff.1 h
  refine ⟨bundled, hbundle, ?_⟩
  split at h
  · cases h
  · cases h
    rfl

/-- Keywords that expand within keep what was bundled self-contained. -/
theorem preparesSelfContained_of_within (hbuilt : engine.Built)
    (hwithin : ∀ installed ∈ engine.keywords, installed.keyword.ExpandsWithin) :
    engine.PreparesSelfContained := by
  intro name document resolver prepared h
  obtain ⟨bundled, hbundle, rfl⟩ := prepare_ok h
  exact expandAll_selfContained hwithin (fun _ hmem => hbuilt.name_ne hmem (by decide))
    (Bundle.bundle_selfContained hbundle)

/-! ## A document with nothing but a keyword -/

/-- A document with a text as the value of a keyword, and nothing else. -/
def onlyMember (name : String) : Value := .object [(name, .string "x")]

theorem bundle_onlyMember {name : String} (href : name ≠ "$ref") (hid : name ≠ "$id")
    (resolver : Resolver) : bundle "" (onlyMember name) resolver = .ok (onlyMember name) := by
  have hkept : (onlyMember name).withoutMember "$id" = onlyMember name := by
    simp [onlyMember, Value.withoutMember, Entries.without, hid]
  have hrewrite : ∀ scope state,
      Bundle.rewrite scope (onlyMember name) state = .ok (onlyMember name, state) := by
    intro scope state
    unfold onlyMember Bundle.rewrite
    rw [Bundle.rewriteMembers_cons]
    unfold Bundle.rewriteMember
    rw [if_neg href]
    rfl
  unfold bundle
  dsimp only
  rw [hkept, hrewrite]
  rfl

/-- Another keyword does nothing to it. -/
theorem expandIn_onlyMember {name : String} (h : keyword.name ≠ name) :
    keyword.expandIn (onlyMember name) = onlyMember name := by
  have htext : keyword.expandIn (.string "x") = .string "x" := rfl
  rw [onlyMember, Keyword.expandIn_single_of_ne (Ne.symm h), htext, ite_self]

theorem expandAll_onlyMember {keywords : List InstalledKeyword} {name : String}
    (h : ∀ installed ∈ keywords, installed.keyword.name ≠ name) :
    expandAll keywords (onlyMember name) = onlyMember name := by
  unfold expandAll
  induction keywords with
  | nil => rfl
  | cons installed keywords ih =>
    rw [List.foldl_cons, expandIn_onlyMember (h installed List.mem_cons_self)]
    exact ih fun other hother => h other (List.mem_cons_of_mem installed hother)

/-- The keyword itself leaves nothing but its expansion. -/
theorem expandIn_onlyMember_self (keyword : Keyword) :
    keyword.expandIn (onlyMember keyword.name) =
      .object [("allOf", .array [keyword.expand (.string "x")])] := by
  have htext : keyword.expandIn (.string "x") = .string "x" := rfl
  rw [onlyMember, Keyword.expandIn_single_self, htext, ite_self]

theorem wrongValue?_onlyMember {keywords : List InstalledKeyword} {name : String}
    (h : ∀ installed ∈ keywords, installed.keyword.name ≠ name ∨ installed.validator = none) :
    wrongValue? keywords (onlyMember name) = none := by
  unfold wrongValue?
  rw [List.findSome?_eq_none_iff]
  intro installed hmem
  rcases h installed hmem with hne | hnone
  · have hoccurrences : Keyword.occurrences installed.keyword.name (onlyMember name) = [] := by
      simp [onlyMember, Keyword.occurrences, Keyword.occurrencesInMembers, Ne.symm hne]
    rw [hoccurrences]
    cases installed.validator <;> rfl
  · rw [hnone]
    rfl

/-- The document with nothing but the keyword that was installed last is prepared, and what the
expansion brings in is in it. -/
theorem prepare_onlyMember (hadded : engine.addKeyword keyword = .ok extended)
    (hschema : keyword.metaSchema = none) (hnew : keyword.name ∉ engine.keywordNames)
    (resolver : Resolver) :
    extended.prepare "" (onlyMember keyword.name) resolver =
      .ok (.object [("allOf", .array [keyword.expand (.string "x")])]) := by
  obtain ⟨hfault, validator, hvalidator, hkeywords⟩ := addKeyword_ok hadded
  have hnone : validator = none := by
    unfold valueValidator at hvalidator
    rw [hschema] at hvalidator
    cases hvalidator
    rfl
  have hold : ∀ installed ∈ engine.keywords, installed.keyword.name ≠ keyword.name := by
    intro installed hmem heq
    exact hnew (heq ▸ List.mem_map_of_mem hmem)
  have hright : wrongValue? extended.keywords (onlyMember keyword.name) = none := by
    apply wrongValue?_onlyMember
    intro installed hmem
    rw [hkeywords] at hmem
    rcases List.mem_append.1 hmem with hmem | hmem
    · exact Or.inl (hold installed hmem)
    · rw [List.mem_singleton.1 hmem]
      exact Or.inr hnone
  unfold prepare
  rw [bundle_onlyMember (name_ne_of_reserved hfault (by decide))
    (name_ne_of_reserved hfault (by decide)), ok_bind, hright]
  dsimp only
  rw [hkeywords, expandAll_append, expandAll_onlyMember hold]
  exact congrArg Except.ok (expandIn_onlyMember_self keyword)

/-- With a template there is no function. -/
theorem expander_eq_none (h : engine.keywordFault? keyword = none)
    (htemplate : keyword.template.isSome) : keyword.expander = none := by
  cases hexpander : keyword.expander with
  | none => rfl
  | some expander =>
    unfold keywordFault? at h
    rw [htemplate, hexpander] at h
    dsimp only [Option.isSome_some] at h
    split at h
    · cases h
    · split at h
      · cases h
      · split at h <;> cases h

/-! ## Top theorem -/

/-- The documents that an engine prepares are self-contained if its keywords expand within. When a
keyword with a template is installed beside such keywords, they are so exactly if the template is
self-contained: what is prepared is bundled before it is expanded, and a reference to a schema that
the template brings in is in the prepared document. -/
theorem prepare_selfContained (hbuilt : engine.Built)
    (hwithin : ∀ installed ∈ engine.keywords, installed.keyword.ExpandsWithin) :
    engine.PreparesSelfContained ∧
    ∀ keyword template extended, keyword.template = some template → keyword.metaSchema = none →
      keyword.name ∉ engine.keywordNames → engine.addKeyword keyword = .ok extended →
      (extended.PreparesSelfContained ↔ SelfContained template) := by
  refine ⟨preparesSelfContained_of_within hbuilt hwithin, ?_⟩
  intro keyword template extended htemplate hschema hnew hadded
  obtain ⟨hfault, validator, -, hkeywords⟩ := addKeyword_ok hadded
  have hexpander := expander_eq_none hfault (by rw [htemplate]; rfl)
  have hiff := Keyword.expandsWithin_template_iff htemplate hexpander
  constructor
  · intro hprepares
    have hprepared := hprepares _ _ _ _ (prepare_onlyMember hadded hschema hnew
      ⟨[], fun name => .error (.schemaNotFound name)⟩)
    have hbranches : SelfContained (.array [keyword.expand (.string "x")]) :=
      hprepared.get? (show "allOf" ≠ "$ref" by decide) rfl
    have hexpansion := Bundle.selfContained_array.1 hbranches _ List.mem_cons_self
    rw [Keyword.expand_template htemplate hexpander] at hexpansion
    exact Keyword.selfContained_of_substitute hexpansion
  · intro hself
    apply preparesSelfContained_of_within (hbuilt.addKeyword hadded)
    intro installed hmem
    rw [hkeywords] at hmem
    rcases List.mem_append.1 hmem with hold | hlast
    · exact hwithin installed hold
    · rw [List.mem_singleton.1 hlast]
      exact hiff.2 hself

/-- A keyword for addresses, by reference to the schema of addresses. -/
def addressKeyword : Keyword :=
  ⟨"x-address", none, some (.object [("$ref", .string "address")]), none⟩

/-- The schema of addresses, as the only one. -/
def addressResolver : Resolver where
  names := ["address"]
  resolve _ := .ok (.object [("type", .string "object")])

/-- The home of a person is an address, and the reference to it is left in the prepared document. -/
theorem prepare_selfContained_of_address :
    ∃ engine, Engine.empty.addKeyword addressKeyword = .ok engine ∧
      ¬ engine.PreparesSelfContained ∧
      engine.prepare "person"
          (.object [("properties", .object [("home", .object [("x-address", .bool true)])])])
          addressResolver =
        .ok (.object [("properties", .object [("home", .object [("allOf",
          .array [.object [("$ref", .string "address")]])])])]) := by
  obtain ⟨engine, hadded⟩ : ∃ engine, Engine.empty.addKeyword addressKeyword = .ok engine := ⟨_, rfl⟩
  have hiff := (prepare_selfContained .empty (List.forall_mem_nil _)).2 addressKeyword _ engine rfl
    rfl (by decide) hadded
  refine ⟨engine, hadded, fun hprepares => ?_, ?_⟩
  · exact absurd (hiff.1 hprepares) (by decide)
  · cases hadded
    rfl

end Engine

end Schemata
