import Schemata.Proofs.Keyword.Parts

/-!
# Keywords are spent

Preparing a document expands the keywords one after the other, each in one go over the document. What
an expansion brings in of a keyword whose turn has come already, the one that is expanded included,
stays. Nothing of the keywords is left if no expansion brings in any of its own or of earlier ones;
whether all is spent can be seen in documents with a single value of a keyword. For keywords with
templates the order does not matter if and only if no template has any of the keywords in it.

    after a turn of k nothing is left of k and of earlier keywords        (FreeOf.expandIn)
    a template has its keywords with any value in it                (FreeOf.of_substitute)
    all is spent ↔ all is spent of each single value                       (spendsKeywords_iff)
-/

namespace Schemata.Engine

open Json (Value)

/-! ## Algorithm -/

/-- Expansion leaves none of the keywords in a document that passes the check. -/
def Spends (keywords : List InstalledKeyword) (document : Value) : Prop :=
  PassesCheck keywords document → FreeOf keywords (expandAll keywords document)

/-- Whatever is prepared, nothing is left of the keywords. -/
def SpendsKeywords (engine : Engine) : Prop :=
  ∀ name document resolver prepared, engine.prepare name document resolver = .ok prepared →
    FreeOf engine.keywords prepared

/-- No expansion brings in the keyword that is expanded, or one whose turn came before. -/
def TakesTurns (keywords : List InstalledKeyword) : Prop :=
  ∀ before installed after, keywords = before ++ installed :: after →
    ∀ value, FreeOf (before ++ [installed]) value →
      FreeOf (before ++ [installed]) (installed.keyword.expand value)

/-- No template has any of the keywords in it. -/
def TemplatesFree (keywords : List InstalledKeyword) : Prop :=
  ∀ installed ∈ keywords, ∀ template, installed.keyword.template = some template →
    FreeOf keywords template

variable {keywords : List InstalledKeyword} {installed : InstalledKeyword} {engine : Engine}

/-! ## Preparing -/

/-- What is prepared is the bundle, if it passes the check, with all keywords expanded. -/
theorem prepare_eq_ok_iff {name : String} {document prepared : Value} {resolver : Resolver} :
    engine.prepare name document resolver = .ok prepared ↔
      ∃ bundled, bundle name document resolver = .ok bundled ∧
        PassesCheck engine.keywords bundled ∧ expandAll engine.keywords bundled = prepared := by
  unfold prepare
  rw [bind_eq_ok_iff]
  refine exists_congr fun bundled => and_congr_right fun _ => ?_
  rw [← wrongValue?_eq_none_iff]
  cases wrongValue? engine.keywords bundled with
  | some wrong => simp
  | none => simp

theorem expandAll_partwise {all : List InstalledKeyword} {good : Value → Prop}
    (h : Partwise all good) (hnamed : Named all) (hsub : keywords ⊆ all) :
    Partwise all fun document => good (expandAll keywords document) := by
  induction keywords with
  | nil => exact h
  | cons installed keywords ih =>
    obtain ⟨hmem, hrest⟩ := List.cons_subset.1 hsub
    exact (ih hrest).expandIn hnamed hmem

theorem expandAll_freeOf_partwise (hnamed : Named keywords) :
    Partwise keywords fun document => FreeOf keywords (expandAll keywords document) :=
  expandAll_partwise (FreeOf.partwise hnamed) hnamed (List.Subset.refl keywords)

/-- An engine spends its keywords if they are spent of every document. What stands below a `$ref`
that is no text is prepared without being bundled. -/
theorem spendsKeywords_iff_spends (hnamed : Named engine.keywords) :
    engine.SpendsKeywords ↔ ∀ document, Spends engine.keywords document := by
  constructor
  · intro hspends document hpasses
    have href : ∀ other ∈ engine.keywords, other.keyword.name ≠ "$ref" :=
      fun other hother => (hnamed other hother).2.2
    have hprepared : engine.prepare "" (.object [("$ref", .object [("$ref", document)])])
        ⟨[], fun name => .error (.schemaNotFound name)⟩ = .ok _ :=
      prepare_eq_ok_iff.2 ⟨_, bundle_ref [("$ref", document)] _,
        (eachValue_single_iff (by decide) href).2 ((eachValue_single_iff (by decide) href).2 hpasses),
        rfl⟩
    have hparts := expandAll_freeOf_partwise hnamed
    exact (hparts.member (by decide) href).1
      ((hparts.member (by decide) href).1 (hspends _ _ _ _ hprepared))
  · intro hspends name document resolver prepared hprepared
    obtain ⟨bundled, -, hpasses, rfl⟩ := prepare_eq_ok_iff.1 hprepared
    exact hspends bundled hpasses

/-- Keywords are spent of every document if they are of each single value. -/
theorem spends_of_alone (hnamed : Named keywords)
    (halone : ∀ installed ∈ keywords, ∀ value, Spends keywords (alone installed value))
    (document : Value) : Spends keywords document :=
  (expandAll_freeOf_partwise hnamed).of_inherited EachValue.inherited
    fun installed hmem value _ => halone installed hmem value

/-! ## Turns -/

/-- A document with a value of a keyword is not free of it. -/
theorem not_freeOf_alone (hmem : installed ∈ keywords) (value : Value) :
    ¬ FreeOf keywords (alone installed value) := by
  intro hfree
  have hnone := hfree installed hmem
  rw [alone, Keyword.occurrences_single_self] at hnone
  cases hnone

theorem FreeOf.below {key : String} {value : Value} (h : FreeOf keywords (.object [(key, value)]))
    (hdata : key ∉ dataKeys) : FreeOf keywords value := by
  intro installed hmem
  have hnone := h installed hmem
  have hne : key ≠ installed.keyword.name := by
    rintro rfl
    rw [Keyword.occurrences_single_self] at hnone
    cases hnone
  rwa [Keyword.occurrences_single_of_ne hne hdata] at hnone

theorem FreeOf.inherited (all : List InstalledKeyword) : Inherited all (FreeOf keywords) where
  single h _ hmember installed hmem := List.eq_nil_iff_forall_not_mem.2 fun value hvalue => by
    have hin := Keyword.mem_occurrencesInMembers.2 ⟨_, hmember, hvalue⟩
    rw [← Keyword.occurrences, h installed hmem] at hin
    cases hin
  item h _ hitem installed hmem := List.eq_nil_iff_forall_not_mem.2 fun value hvalue => by
    have hin := Keyword.mem_occurrencesInItems.2 ⟨_, hitem, hvalue⟩
    rw [← Keyword.occurrences, h installed hmem] at hin
    cases hin
  member hdata _ _ h := h.below hdata

/-- After the turn of a keyword nothing is left of it and of the keywords that were spent before, if
its expansions bring in none of them. -/
theorem FreeOf.expandIn {before : List InstalledKeyword} (hnamed : Named (before ++ [installed]))
    (hexpand : ∀ value, FreeOf (before ++ [installed]) value →
      FreeOf (before ++ [installed]) (installed.keyword.expand value))
    {document : Value} (h : FreeOf before document) :
    FreeOf (before ++ [installed]) (installed.keyword.expandIn document) := by
  have hmem : installed ∈ before ++ [installed] := List.mem_append_right _ (List.mem_singleton_self _)
  have hparts := FreeOf.partwise hnamed
  refine (hparts.expandIn hnamed hmem).of_inherited (FreeOf.inherited _) ?_ h
  intro other hother value hvalue hfree
  rcases List.mem_append.1 hother with hbefore | hlast
  · exact absurd hfree (not_freeOf_alone hbefore value)
  · obtain rfl := List.mem_singleton.1 hlast
    obtain ⟨hdata, -, -⟩ := hnamed other hmem
    show FreeOf _ (other.keyword.expandIn (alone other value))
    rw [alone, Keyword.expandIn_single_self, if_neg (mt List.contains_iff_mem.1 hdata),
      hparts.allOf hnamed, List.forall_mem_singleton]
    exact hexpand _ (hvalue (FreeOf.below hfree hdata))

/-- If the keywords take turns, nothing is left of them in the end. -/
theorem freeOf_expandAll {before after : List InstalledKeyword} (hnamed : Named (before ++ after))
    (hturns : TakesTurns (before ++ after)) {document : Value} (h : FreeOf before document) :
    FreeOf (before ++ after) (expandAll after document) := by
  induction after generalizing before document with
  | nil =>
    rw [List.append_nil]
    exact h
  | cons installed after ih =>
    have hsplit : before ++ installed :: after = before ++ [installed] ++ after := by simp
    have hfirst : Named (before ++ [installed]) := fun other hother =>
      hnamed other (hsplit ▸ List.mem_append_left after hother)
    have hspent := h.expandIn hfirst (hturns before installed after rfl)
    rw [hsplit] at hnamed hturns ⊢
    exact ih hnamed hturns hspent

/-! ## Templates -/

theorem substituteItems_eq_map (value : Value) (items : List Value) :
    Keyword.substituteItems value items = items.map (Keyword.substitute value) := by
  induction items with
  | nil => rfl
  | cons item items ih => rw [Keyword.substituteItems, ih, List.map_cons]

theorem substituteMembers_eq_map (value : Value) (members : List (String × Value)) :
    Keyword.substituteMembers value members =
      members.map fun member => (member.1, Keyword.substitute value member.2) := by
  induction members with
  | nil => rfl
  | cons member members ih => rw [Keyword.substituteMembers, ih, List.map_cons]

/-- A property of parts that a value has is one of parts before the value is put into a template. -/
theorem Partwise.substitute {good : Value → Prop} (h : Partwise keywords good) {value : Value}
    (hvalue : good value) : Partwise keywords fun template => good (Keyword.substitute value template) where
  object := by
    intro members hmembers
    rw [Keyword.substitute, substituteMembers_eq_map]
    refine h.object (List.forall_mem_map.2 fun member hmember => ?_)
    exact hmembers member hmember
  array := by
    intro items
    rw [Keyword.substitute, substituteItems_eq_map, h.array, List.forall_mem_map]
  leaf := by
    rintro (_ | _ | _ | text | _ | _) hleaf
    · exact h.leaf rfl
    · exact h.leaf rfl
    · exact h.leaf rfl
    · rw [Keyword.substitute]
      split
      · exact hvalue
      · exact h.leaf rfl
    · cases hleaf
    · cases hleaf
  data hdata _ := h.data hdata _
  member hdata hkey _ := h.member hdata hkey

theorem Inherited.substitute {holds : Value → Prop} (h : Inherited keywords holds) (value : Value) :
    Inherited keywords fun template => holds (Keyword.substitute value template) where
  single := by
    intro members hmembers member hmember
    rw [Keyword.substitute, substituteMembers_eq_map] at hmembers
    exact h.single hmembers (List.mem_map_of_mem hmember)
  item := by
    intro items hitems item hitem
    rw [Keyword.substitute, substituteItems_eq_map] at hitems
    exact h.item hitems (List.mem_map_of_mem hitem)
  member hdata hkey _ := h.member hdata hkey

/-- A template without keywords has none with a value in it that has none. -/
theorem FreeOf.substitute (hnamed : Named keywords) {value template : Value}
    (hvalue : FreeOf keywords value) (h : FreeOf keywords template) :
    FreeOf keywords (Keyword.substitute value template) :=
  ((FreeOf.partwise hnamed).substitute hvalue).of_inherited (FreeOf.inherited keywords)
    (fun _ hmem inner _ hfree => absurd hfree (not_freeOf_alone hmem inner)) h

/-- The keywords of a template are there with any value in it. -/
theorem FreeOf.of_substitute (hnamed : Named keywords) {value template : Value}
    (h : FreeOf keywords (Keyword.substitute value template)) : FreeOf keywords template := by
  refine (FreeOf.partwise hnamed).of_inherited ((FreeOf.inherited keywords).substitute value) ?_ h
  intro installed hmem inner _ hfree
  have hkept : Keyword.substitute value (alone installed inner) =
      alone installed (Keyword.substitute value inner) := rfl
  rw [hkept] at hfree
  exact absurd hfree (not_freeOf_alone hmem _)

theorem FreeOf.mono {keywords' : List InstalledKeyword} {document : Value}
    (h : FreeOf keywords document) (hsub : keywords' ⊆ keywords) : FreeOf keywords' document :=
  fun installed hmem => h installed (hsub hmem)

/-- Without keywords in templates the keywords take turns in any order. -/
theorem takesTurns_of_templatesFree (hnamed : Named keywords)
    (hexpander : ∀ installed ∈ keywords, installed.keyword.expander = none)
    (hfree : TemplatesFree keywords) {order : List InstalledKeyword} (hsub : order ⊆ keywords) :
    TakesTurns order := by
  rintro before installed after rfl value hvalue
  have hturn : before ++ [installed] ⊆ keywords := by
    refine fun other hother => hsub ?_
    rw [List.append_cons]
    exact List.mem_append_left after hother
  have hmem : installed ∈ keywords := hturn (List.mem_append_right _ (List.mem_singleton_self _))
  have hpart : Named (before ++ [installed]) := fun other hother => hnamed other (hturn hother)
  cases htemplate : installed.keyword.template with
  | none =>
    unfold Keyword.expand
    rw [hexpander installed hmem, htemplate]
    exact (FreeOf.partwise hpart).leaf rfl
  | some template =>
    rw [Keyword.expand_template htemplate (hexpander installed hmem)]
    exact hvalue.substitute hpart ((hfree installed hmem template htemplate).mono hturn)

/-- Below a name that is no name of a keyword, keywords are expanded as without the name. -/
theorem expandAll_single {key : String} (hdata : key ∉ dataKeys)
    (hkey : ∀ installed ∈ keywords, installed.keyword.name ≠ key) (value : Value) :
    expandAll keywords (.object [(key, value)]) = .object [(key, expandAll keywords value)] := by
  induction keywords generalizing value with
  | nil => rfl
  | cons installed keywords ih =>
    show expandAll keywords (installed.keyword.expandIn _) = _
    rw [Keyword.expandIn_single_of_ne (Ne.symm (hkey installed List.mem_cons_self)),
      if_neg (mt List.contains_iff_mem.1 hdata),
      ih fun other hother => hkey other (List.mem_cons_of_mem installed hother)]
    rfl

/-- A keyword that is expanded last leaves what its template has of the keywords. -/
theorem freeOf_template_of_last {others : List InstalledKeyword} {template value : Value}
    (hnamed : Named (others ++ [installed])) (hexpander : installed.keyword.expander = none)
    (htemplate : installed.keyword.template = some template)
    (hnames : ∀ other ∈ others, other.keyword.name ≠ installed.keyword.name)
    (hfree : FreeOf (others ++ [installed])
      (expandAll (others ++ [installed]) (alone installed value))) :
    FreeOf (others ++ [installed]) template := by
  obtain ⟨hdata, -, -⟩ := hnamed installed (List.mem_append_right _ (List.mem_singleton_self _))
  have hlast : expandAll (others ++ [installed]) (alone installed value) =
      .object [("allOf", .array [Keyword.substitute
        (installed.keyword.expandIn (expandAll others value)) template])] := by
    rw [expandAll_append, alone, expandAll_single hdata hnames]
    show installed.keyword.expandIn _ = _
    rw [Keyword.expandIn_single_self, if_neg (mt List.contains_iff_mem.1 hdata),
      Keyword.expand_template htemplate hexpander]
  rw [hlast, (FreeOf.partwise hnamed).allOf hnamed, List.forall_mem_singleton] at hfree
  exact hfree.of_substitute hnamed

/-! ## Top theorem -/

/-- An engine leaves nothing of its keywords in what it prepares if and only if expansion leaves none
in any document with a single value of a keyword that passes the check. It is so if the keywords take
turns: no expansion brings in the keyword itself or one that was installed before. For keywords with
templates, of names that differ and each with a value that passes, it is so in every order of
installation if and only if no template has any of the keywords in it. -/
theorem spendsKeywords_iff (hbuilt : engine.Built) :
    (engine.SpendsKeywords ↔
      ∀ installed ∈ engine.keywords, ∀ value, Spends engine.keywords (alone installed value)) ∧
    (TakesTurns engine.keywords → engine.SpendsKeywords) ∧
    ((∀ installed ∈ engine.keywords, installed.keyword.expander = none) →
      engine.keywordNames.Nodup →
      (∀ installed ∈ engine.keywords, ∃ value, PassesCheck engine.keywords (alone installed value)) →
      ((∀ other : Engine, other.keywords.Perm engine.keywords → other.SpendsKeywords) ↔
        TemplatesFree engine.keywords)) := by
  have hnamed := hbuilt.named
  have hperm : ∀ other : Engine, other.keywords.Perm engine.keywords → Named other.keywords :=
    fun other hother installed hmem => hnamed installed (hother.subset hmem)
  have hturns : ∀ other : Engine, Named other.keywords → TakesTurns other.keywords →
      other.SpendsKeywords := by
    intro other hnamed hturns
    refine (spendsKeywords_iff_spends hnamed).2 fun document _ => ?_
    exact @freeOf_expandAll [] _ hnamed hturns document (List.forall_mem_nil _)
  refine ⟨⟨fun hspends installed _ value => (spendsKeywords_iff_spends hnamed).1 hspends _,
    fun halone => (spendsKeywords_iff_spends hnamed).2 (spends_of_alone hnamed halone)⟩,
    hturns engine hnamed, fun hexpander hnames hpasses => ⟨?_, ?_⟩⟩
  · intro hall installed hmem template htemplate
    obtain ⟨before, after, hsplit⟩ := List.append_of_mem hmem
    -- the keyword is installed after all others
    have hlast : (before ++ after ++ [installed]).Perm engine.keywords := by
      rw [hsplit, List.append_assoc]
      exact (List.perm_append_singleton installed after).append_left before
    obtain ⟨value, hvalue⟩ := hpasses installed hmem
    have hothers : ∀ other ∈ before ++ after, other.keyword.name ≠ installed.keyword.name := by
      have hdistinct := (hlast.map fun other : InstalledKeyword =>
        other.keyword.name).nodup_iff.2 hnames
      rw [List.map_append, List.nodup_append] at hdistinct
      exact fun other hother => hdistinct.2.2 _ (List.mem_map_of_mem hother) _
        (List.mem_singleton_self _)
    have hspends := (spendsKeywords_iff_spends (hperm _ hlast)).1
      (hall { engine with keywords := before ++ after ++ [installed] } hlast) (alone installed value)
      fun other hother => hvalue other (hlast.subset hother)
    have hfree := freeOf_template_of_last (hperm { engine with keywords := _ } hlast)
      (hexpander installed hmem) htemplate hothers hspends
    exact hfree.mono hlast.symm.subset
  · intro hfree other hother
    exact hturns other (hperm other hother)
      (takesTurns_of_templatesFree hnamed hexpander hfree hother.subset)

def positiveKeyword : Keyword where
  name := "x-positive"
  metaSchema := none
  template := some (.object [("exclusiveMinimum", .ofInt 0)])
  expander := none

def priceKeyword : Keyword where
  name := "x-price"
  metaSchema := none
  template := some (.object [("type", .string "number"), ("x-positive", .bool true)])
  expander := none

/-- A price is a positive number, unless the keyword for positive numbers was installed before the one
for prices. Then it is any number. -/
theorem spendsKeywords_of_price :
    let resolver : Resolver := ⟨[], fun name => .error (.schemaNotFound name)⟩
    let schema : Value := .object [("x-price", .bool true)]
    ∃ engine reordered,
      (Engine.empty.addKeyword positiveKeyword).bind (·.addKeyword priceKeyword) = .ok engine ∧
      (Engine.empty.addKeyword priceKeyword).bind (·.addKeyword positiveKeyword) = .ok reordered ∧
      ¬ engine.SpendsKeywords ∧ reordered.SpendsKeywords ∧
      engine.prepare "course" schema resolver = .ok (.object [("allOf", .array
        [.object [("type", .string "number"), ("x-positive", .bool true)]])]) ∧
      reordered.prepare "course" schema resolver = .ok (.object [("allOf", .array
        [.object [("allOf", .array [.object [("exclusiveMinimum", .ofInt 0)]]),
          ("type", .string "number")]])]) := by
  intro resolver schema
  obtain ⟨price, hprice⟩ : ∃ engine, Engine.empty.addKeyword priceKeyword = .ok engine := ⟨_, rfl⟩
  obtain ⟨reordered, hreordered⟩ : ∃ engine, price.addKeyword positiveKeyword = .ok engine := by
    cases hprice
    exact ⟨_, rfl⟩
  have hturns := (spendsKeywords_iff (.addKeyword (.addKeyword .empty hprice) hreordered)).2.1
  cases hprice
  cases hreordered
  refine ⟨_, _, rfl, rfl, fun hspends => ?_, hturns ?_, rfl, rfl⟩
  · have hleft := hspends "course" schema resolver _ rfl _ List.mem_cons_self
    cases hleft
  · rintro (_ | ⟨first, _ | ⟨second, before⟩⟩) installed after hsplit value -
    · cases hsplit
      exact List.forall_mem_singleton.2 rfl
    · cases hsplit
      exact List.forall_mem_cons.2 ⟨rfl, List.forall_mem_singleton.2 rfl⟩
    · simp [Engine.empty] at hsplit

end Schemata.Engine
