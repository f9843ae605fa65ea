import Schemata.Proofs.Preparation

/-!
# Names of keywords

Without white space at its ends no name of an installed keyword is blank or reserved. But a new name
is held, trimmed, against the names of the installed keywords as they stand, so that a name that is
not trimmed itself is never found among them. It can be installed any number of times, and at last
its trimmed form can be. Names are told apart as long as there are no such names.

    a name, trimmed, is none of the names that were installed before         (Built.names_apart)
    names are different ↔ no untrimmed one comes before one of the same trimmed form
                                                                        (distinctNames_iff)
    they are different in all runs ↔ untrimmed names are not offered   (keywordNames_distinct_iff)
-/

namespace Schemata.Engine

open Json (Value)

/-! ## Algorithm -/

/-- The engine after a keyword was offered to it: with the keyword, or as it was. -/
def offer (engine : Engine) (keyword : Keyword) : Engine :=
  match engine.addKeyword keyword with
  | .ok extended => extended
  | .error _ => engine

def offered (keywords : List Keyword) : Engine := keywords.foldl offer Engine.empty

/-- A name that a keyword may have: without white space at its ends it is neither empty nor reserved. -/
def Admissible (name : String) : Prop := Text.trim name ≠ "" ∧ Text.trim name ∉ reservedKeywords

/-- The names of the installed keywords are different, as they stand and without white space at
their ends. -/
def DistinctNames (engine : Engine) : Prop :=
  engine.keywordNames.Nodup ∧ (engine.keywordNames.map Text.trim).Nodup

/-! ## Offers -/

variable {engine extended : Engine} {keyword : Keyword}

theorem keywordFault?_eq_none (h : engine.keywordFault? keyword = none) :
    Admissible keyword.name ∧ Text.trim keyword.name ∉ engine.keywordNames := by
  unfold keywordFault? at h
  dsimp only at h
  split at h
  · cases h
  · next hempty =>
    split at h
    · cases h
    · next hreserved =>
      split at h
      · cases h
      · next hknown =>
        refine ⟨⟨fun hblank => hempty (String.isEmpty_iff.2 hblank), fun hmem => ?_⟩, fun hmem => ?_⟩
        · exact hreserved (List.contains_iff_mem.2 hmem)
        · exact hknown (List.contains_iff_mem.2 hmem)

theorem keywordNames_addKeyword (h : engine.addKeyword keyword = .ok extended) :
    extended.keywordNames = engine.keywordNames ++ [keyword.name] := by
  obtain ⟨-, validator, -, hkeywords⟩ := addKeyword_ok h
  unfold keywordNames
  rw [hkeywords, List.map_append]
  rfl

/-- A keyword with a template and without a schema of its values is refused for its name only. -/
theorem addKeyword_template {name : String} (hadmissible : Admissible name)
    (hnew : Text.trim name ∉ engine.keywordNames) (template : Value) :
    ∃ extended, engine.addKeyword ⟨name, none, some template, none⟩ = .ok extended := by
  have hfault : engine.keywordFault? ⟨name, none, some template, none⟩ = none := by
    unfold keywordFault?
    dsimp only
    rw [if_neg (mt String.isEmpty_iff.1 hadmissible.1),
      if_neg (mt List.contains_iff_mem.1 hadmissible.2), if_neg (mt List.contains_iff_mem.1 hnew)]
    rfl
  unfold addKeyword
  rw [hfault]
  exact ⟨_, rfl⟩

theorem offer_ok (h : engine.addKeyword keyword = .ok extended) : engine.offer keyword = extended := by
  unfold offer
  rw [h]

/-- An offer that is refused leaves no trace. -/
theorem offer_cases (engine : Engine) (keyword : Keyword) :
    engine.addKeyword keyword = .ok (engine.offer keyword) ∨ engine.offer keyword = engine := by
  unfold offer
  cases h : engine.addKeyword keyword with
  | ok extended => exact Or.inl rfl
  | error failure => exact Or.inr rfl

theorem Built.offer (h : engine.Built) (keyword : Keyword) : (engine.offer keyword).Built := by
  rcases offer_cases engine keyword with hadded | hrefused
  · exact h.addKeyword hadded
  · rwa [hrefused]

theorem built_offered (keywords : List Keyword) : (offered keywords).Built := by
  suffices h : ∀ engine : Engine, engine.Built → (keywords.foldl Engine.offer engine).Built from
    h _ .empty
  induction keywords with
  | nil => exact fun _ h => h
  | cons keyword keywords ih => exact fun engine h => ih _ (h.offer keyword)

/-- What is installed was offered. -/
theorem mem_keywordNames_offered {keywords : List Keyword} {name : String}
    (hmem : name ∈ (offered keywords).keywordNames) : ∃ keyword ∈ keywords, keyword.name = name := by
  suffices h : ∀ engine : Engine, name ∈ (keywords.foldl Engine.offer engine).keywordNames →
      name ∈ engine.keywordNames ∨ ∃ keyword ∈ keywords, keyword.name = name from
    (h _ hmem).resolve_left List.not_mem_nil
  clear hmem
  induction keywords with
  | nil => exact fun _ h => Or.inl h
  | cons keyword keywords ih =>
    intro engine h
    rcases ih (engine.offer keyword) h with hold | ⟨other, hother, hname⟩
    · rcases offer_cases engine keyword with hadded | hrefused
      · rw [keywordNames_addKeyword hadded, List.mem_append, List.mem_singleton] at hold
        rcases hold with hold | rfl
        · exact Or.inl hold
        · exact Or.inr ⟨keyword, List.mem_cons_self, rfl⟩
      · rw [hrefused] at hold
        exact Or.inl hold
    · exact Or.inr ⟨other, List.mem_cons_of_mem keyword hother, hname⟩

/-! ## Names -/

theorem keywordNames_configure (engine : Engine) (assertsFormats : Bool) :
    (engine.configure assertsFormats).keywordNames = engine.keywordNames := by
  unfold configure
  split <;> rfl

/-- Every installed name is one that a keyword may have. -/
theorem Built.admissible (h : engine.Built) : ∀ name ∈ engine.keywordNames, Admissible name := by
  induction h with
  | empty => exact List.forall_mem_nil _
  | addFormat _ _ ih => exact ih
  | configure assertsFormats _ ih => rwa [keywordNames_configure]
  | addKeyword _ hadded ih =>
    rw [keywordNames_addKeyword hadded, List.forall_mem_append]
    exact ⟨ih, List.forall_mem_singleton.2 (keywordFault?_eq_none (addKeyword_ok hadded).1).1⟩

/-- A name without white space at its ends is none of those that were installed before. -/
theorem Built.names_apart (h : engine.Built) :
    engine.keywordNames.Pairwise fun first second => first ≠ Text.trim second := by
  induction h with
  | empty => exact List.Pairwise.nil
  | addFormat _ _ ih => exact ih
  | configure assertsFormats _ ih => rwa [keywordNames_configure]
  | addKeyword _ hadded ih =>
    have hnew := (keywordFault?_eq_none (addKeyword_ok hadded).1).2
    rw [keywordNames_addKeyword hadded, List.pairwise_append]
    refine ⟨ih, List.pairwise_singleton _ _, fun first hfirst second hsecond heq => hnew ?_⟩
    rw [← List.mem_singleton.1 hsecond, ← heq]
    exact hfirst

/-- Names are different exactly if none that is not trimmed comes before one of the same trimmed
form. -/
theorem distinctNames_iff (h : engine.Built) :
    engine.DistinctNames ↔ engine.keywordNames.Pairwise fun first second =>
      Text.trim first ≠ first → Text.trim first ≠ Text.trim second := by
  unfold DistinctNames
  constructor
  · rintro ⟨-, hnodup⟩
    refine List.Pairwise.imp ?_ (List.pairwise_map.1 hnodup)
    intro first second hne _
    exact hne
  · intro hapart
    have hnodup : (engine.keywordNames.map Text.trim).Nodup := by
      refine List.pairwise_map.2 (List.Pairwise.imp₂ (fun first second hne hpadded => ?_)
        h.names_apart hapart)
      by_cases htrim : Text.trim first = first
      · rwa [htrim]
      · exact hpadded htrim
    refine ⟨List.Pairwise.imp (fun hne heq => hne ?_) (List.pairwise_map.1 hnodup), hnodup⟩
    rw [heq]

/-! ## Top theorem -/

/-- Whatever keywords are offered, and whether they are accepted or not, the installed names without
white space at their ends are neither empty nor reserved. They are different exactly if none that is
not trimmed comes before one of the same trimmed form. That they are different in all runs with the
names of some set means that all names of the set that keywords may have are trimmed. -/
theorem keywordNames_distinct_iff (allowed : String → Prop) :
    (∀ keywords,
      (∀ name ∈ (offered keywords).keywordNames, Admissible name) ∧
      ((offered keywords).DistinctNames ↔
        (offered keywords).keywordNames.Pairwise fun first second =>
          Text.trim first ≠ first → Text.trim first ≠ Text.trim second)) ∧
    ((∀ keywords, (∀ keyword ∈ keywords, allowed keyword.name) → (offered keywords).DistinctNames) ↔
      ∀ name, allowed name → Admissible name → Text.trim name = name) := by
  refine ⟨fun keywords => ⟨(built_offered keywords).admissible,
    distinctNames_iff (built_offered keywords)⟩, fun hdistinct name hallowed hadmissible => ?_,
    fun htrimmed keywords hallowed => ?_⟩
  · -- a name that is not trimmed is installed twice
    apply Decidable.byContradiction
    intro hpadded
    have hnone : Text.trim name ∉ Engine.empty.keywordNames := List.not_mem_nil
    obtain ⟨once, honce⟩ := addKeyword_template hadmissible hnone (.bool true)
    have hnames := keywordNames_addKeyword honce
    have hagain : Text.trim name ∉ once.keywordNames := by
      rw [hnames]
      simpa [Engine.empty, keywordNames] using hpadded
    obtain ⟨twice, htwice⟩ := addKeyword_template hadmissible hagain (.bool true)
    have hrun : offered [⟨name, none, some (.bool true), none⟩, ⟨name, none, some (.bool true), none⟩] =
        twice := by
      unfold offered
      rw [List.foldl_cons, offer_ok honce, List.foldl_cons, offer_ok htwice, List.foldl_nil]
    have hnodup := (hdistinct [⟨name, none, some (.bool true), none⟩,
      ⟨name, none, some (.bool true), none⟩] (by simpa using hallowed)).1
    rw [hrun, keywordNames_addKeyword htwice, hnames] at hnodup
    simp [Engine.empty, keywordNames] at hnodup
  · refine (distinctNames_iff (built_offered keywords)).2
      (List.Pairwise.imp_of_mem (fun hfirst _ _ hpadded => ?_) (built_offered keywords).names_apart)
    obtain ⟨keyword, hmem, hname⟩ := mem_keywordNames_offered hfirst
    have hadmissible := (built_offered keywords).admissible _ hfirst
    exact absurd (htrimmed _ (hname ▸ hallowed keyword hmem) hadmissible) hpadded

/-- A keyword with a blank behind its name is installed twice, and then once more without the blank. -/
theorem keywordNames_distinct_iff_of_blank :
    let once : String → Keyword := fun name => ⟨name, none, some (.object []), none⟩
    let engine := offered [once "x-once ", once "x-once ", once "x-once"]
    engine.keywordNames = ["x-once ", "x-once ", "x-once"] ∧ ¬ engine.DistinctNames ∧
      (offered [once "x-once", once "x-once ", once "x-once"]).keywordNames = ["x-once"] := by
  intro once engine
  have hnames : engine.keywordNames = ["x-once ", "x-once ", "x-once"] := by decide +kernel
  refine ⟨hnames, fun hdistinct => ?_, by decide +kernel⟩
  have hapart := (((keywordNames_distinct_iff fun _ => True).1
    [once "x-once ", once "x-once ", once "x-once"]).2.1 hdistinct)
  have hne := (List.pairwise_cons.1 (hnames ▸ hapart)).1 "x-once " (by simp)
  exact hne (by decide +kernel) rfl

end Schemata.Engine
