import Schemata.Proofs.Keyword.Complete

/-!
# Constraints beside a keyword

Where an object has a member of the keyword's name, the expansion takes its place as one more branch of
the `allOf` of the object. All other members stay, with the keyword expanded inside of them. So does an
`allOf` that is a list. One of any other kind is replaced, and with it goes whatever it said.

    the members beside a keyword with k expanded                (member?_expandIn, allOf_expandIn)
    every part past data is there again, or in a value that is handed over, unless the way to it
      leads through an `allOf` that is replaced                                  (remains_or_drops)
    an object keeps its constraints ↔ its `allOf`, if any, is a list         (keepsConstraints_iff)
-/

namespace Schemata.Keyword

open Json (Value Step)

/-! ## Algorithm -/

/-- What expansion makes of a member of an object; data stays as it is. -/
def expandUnder (keyword : Keyword) (key : String) (member : Value) : Value :=
  if dataKeys.contains key then member else keyword.expandIn member

def branchOf (keyword : Keyword) (value : Value) : Value :=
  keyword.expand (keyword.expandUnder keyword.name value)

/-- The branches of an object, if its `allOf` is a list. -/
def branchesIn (members : List (String × Value)) : List Value :=
  match Entries.get? members "allOf" with
  | some (.array branches) => branches
  | _ => []

/-- The branches in front of the new one. Where the keyword has the name of the list of branches
itself, its value is no list of branches any more. -/
def branchesBefore (keyword : Keyword) (members : List (String × Value)) : List Value :=
  if keyword.name = "allOf" then [] else (branchesIn members).map keyword.expandIn

/-- A value that is no list. -/
def NoList (value : Value) : Prop := ∀ items, value ≠ .array items

/-- An object with a value of the keyword has, after expansion, all that it had beside it, and one
branch more. -/
structure KeepsConstraints (keyword : Keyword) (members : List (String × Value)) (value : Value) :
    Prop where
  /-- Every other member is there, with the keyword expanded inside of it. -/
  others : ∀ key, key ≠ keyword.name → key ≠ "allOf" →
    (keyword.expandIn (.object members)).member? key =
      (Entries.get? members key).map (keyword.expandUnder key)
  /-- If there was no `allOf`, there is one with the new branch. -/
  absent : Entries.get? members "allOf" = none →
    (keyword.expandIn (.object members)).member? "allOf" = some (.array [keyword.branchOf value])
  /-- If it was a list, its branches are the leading ones, with exactly the new one behind them. -/
  listed : ∀ branches, Entries.get? members "allOf" = some (.array branches) →
    (keyword.expandIn (.object members)).member? "allOf" =
      some (.array (branches.map keyword.expandIn ++ [keyword.branchOf value]))
  /-- If it was anything else, it is there still, by itself or as a branch. -/
  unlisted : ∀ other, Entries.get? members "allOf" = some other → NoList other →
    ∃ after, (keyword.expandIn (.object members)).member? "allOf" = some after ∧
      (after = keyword.expandIn other ∨
        ∃ branches, after = .array branches ∧ keyword.expandIn other ∈ branches)

/-- The `allOf` beside a value of the keyword is a list, or it says nothing but what the new branch
says. A list that is the value of the keyword itself has to be empty. -/
def SparesAllOf (keyword : Keyword) (members : List (String × Value)) (value : Value) : Prop :=
  ∀ other, Entries.get? members "allOf" = some other →
    (∃ branches, other = .array branches ∧ (keyword.name = "allOf" → branches = [])) ∨
      (NoList other ∧ keyword.expandIn other = keyword.branchOf value)

/-- A part of a document is there after expansion, with the keyword expanded in it: where it stood,
or in a value that is handed over, if it stood within a value of the keyword. -/
def Remains (keyword : Keyword) (document : Value) (steps : List Step) (part : Value) : Prop :=
  (keyword.expandIn document).part? steps = some (keyword.expandIn part) ∨
    ∃ value ∈ handed keyword document, ∃ rest, rest <:+ steps ∧
      value.part? rest = some (keyword.expandIn part)

/-- A way leads into an `allOf` that is no list, beside a value of the keyword. -/
def LeadsIntoUnlisted (keyword : Keyword) (document : Value) (steps : List Step) : Prop :=
  ∃ front rest members value other, steps = front ++ .member "allOf" :: rest ∧
    document.part? front = some (.object members) ∧
      Entries.get? members keyword.name = some value ∧
        Entries.get? members "allOf" = some other ∧ NoList other

/-! ## Members -/

variable {keyword : Keyword} {members : List (String × Value)} {value document : Value}
  {key : String} {steps : List Step}

theorem expandUnder_of_not_mem (h : key ∉ dataKeys) (member : Value) :
    keyword.expandUnder key member = keyword.expandIn member := by
  unfold expandUnder
  rw [if_neg (mt List.contains_iff_mem.1 h)]

theorem get?_expandMembers (keyword : Keyword) (members : List (String × Value)) (key : String) :
    Entries.get? (expandMembers keyword members) key =
      (Entries.get? members key).map (keyword.expandUnder key) := by
  induction members with
  | nil => rfl
  | cons head members ih =>
    obtain ⟨first, member⟩ := head
    rw [expandMembers, Entries.get?_cons, Entries.get?_cons, ih]
    by_cases hfirst : first = key
    · rw [if_pos hfirst, if_pos hfirst, hfirst]
      rfl
    · rw [if_neg hfirst, if_neg hfirst]

/-- An object without a value of the keyword is expanded inside of its members only. -/
theorem member?_expandIn_of_none (h : Entries.get? members keyword.name = none) (key : String) :
    (keyword.expandIn (.object members)).member? key =
      (Entries.get? members key).map (keyword.expandUnder key) := by
  have hnone : keyword.name ∉ Entries.keys (expandMembers keyword members) := by
    rw [keys_expandMembers]
    exact (Entries.get?_eq_none_iff members keyword.name).1 h
  rw [expandIn, expandHere_of_not_mem hnone]
  exact get?_expandMembers keyword members key

theorem expandIn_of_some (h : Entries.get? members keyword.name = some value) :
    keyword.expandIn (.object members) = .object (pushAllOf
      (Entries.without (expandMembers keyword members) keyword.name) (keyword.branchOf value)) := by
  rw [expandIn, expandHere, get?_expandMembers, h]
  rfl

/-- The members beside a value of the keyword. -/
theorem member?_expandIn (h : Entries.get? members keyword.name = some value)
    (hname : key ≠ keyword.name) (hall : key ≠ "allOf") :
    (keyword.expandIn (.object members)).member? key =
      (Entries.get? members key).map (keyword.expandUnder key) := by
  rw [expandIn_of_some h]
  show Entries.get? (pushAllOf _ _) key = _
  rw [get?_pushAllOf hall, Entries.get?_without, if_neg hname, get?_expandMembers]

/-- Only lists become lists. -/
theorem NoList.expandIn (h : NoList value) : NoList (keyword.expandIn value) := by
  intro items heq
  cases value with
  | array items => exact h items rfl
  | object members => cases heq
  | _ => cases heq

theorem branchesIn_of_array {branches : List Value}
    (h : Entries.get? members "allOf" = some (.array branches)) : branchesIn members = branches := by
  unfold branchesIn
  rw [h]

theorem branchesIn_of_noList
    (h : ∀ other, Entries.get? members "allOf" = some other → NoList other) :
    branchesIn members = [] := by
  unfold branchesIn
  split
  · next branches hbranches => exact absurd rfl (h _ hbranches branches)
  · rfl

/-- A new branch comes behind the branches of an object. -/
theorem get?_pushAllOf_allOf (members : List (String × Value)) (expansion : Value) :
    Entries.get? (pushAllOf members expansion) "allOf" =
      some (.array (branchesIn members ++ [expansion])) := by
  unfold pushAllOf
  split
  · next branches hbranches => rw [Entries.get?_put_self, branchesIn_of_array hbranches]
  · next hother =>
    rw [Entries.get?_put_self, branchesIn_of_noList]
    · rfl
    · rintro other hget branches rfl
      exact hother branches hget

/-- The branches of an object with a value of the keyword. -/
theorem allOf_expandIn (h : Entries.get? members keyword.name = some value) :
    (keyword.expandIn (.object members)).member? "allOf" =
      some (.array (keyword.branchesBefore members ++ [keyword.branchOf value])) := by
  have hbefore : branchesIn (Entries.without (expandMembers keyword members) keyword.name) =
      keyword.branchesBefore members := by
    unfold branchesBefore branchesIn
    rw [Entries.get?_without, get?_expandMembers]
    by_cases hall : keyword.name = "allOf"
    · rw [if_pos hall.symm, if_pos hall]
    · rw [if_neg (Ne.symm hall), if_neg hall]
      cases hother : Entries.get? members "allOf" with
      | none => rfl
      | some other =>
        rw [Option.map_some, expandUnder_of_not_mem (by decide)]
        cases other with
        | array branches => rw [Keyword.expandIn, expandItems_eq_map]
        | object inner => rfl
        | _ => rfl
  rw [expandIn_of_some h]
  show Entries.get? (pushAllOf _ _) "allOf" = _
  rw [get?_pushAllOf_allOf, hbefore]

theorem branchesBefore_of_array {branches : List Value} (hall : keyword.name ≠ "allOf")
    (h : Entries.get? members "allOf" = some (.array branches)) :
    keyword.branchesBefore members = branches.map keyword.expandIn := by
  unfold branchesBefore
  rw [if_neg hall, branchesIn_of_array h]

theorem branchesBefore_of_noList
    (h : ∀ other, Entries.get? members "allOf" = some other → NoList other) :
    keyword.branchesBefore members = [] := by
  unfold branchesBefore
  rw [branchesIn_of_noList h, List.map_nil, ite_self]

/-! ## One object -/

/-- An object keeps its constraints if its `allOf` is spared. -/
theorem KeepsConstraints.of_spares (hvalue : Entries.get? members keyword.name = some value)
    (h : keyword.SparesAllOf members value) : keyword.KeepsConstraints members value where
  others _ hname hall := member?_expandIn hvalue hname hall
  absent hnone := by
    rw [allOf_expandIn hvalue, branchesBefore_of_noList fun other hother => ?_]
    · rfl
    · rw [hnone] at hother
      cases hother
  listed branches hbranches := by
    rw [allOf_expandIn hvalue]
    rcases h _ hbranches with ⟨others, heq, hempty⟩ | ⟨hnolist, -⟩
    · cases heq
      by_cases hall : keyword.name = "allOf"
      · rw [hempty hall]
        unfold branchesBefore
        rw [if_pos hall]
        rfl
      · rw [branchesBefore_of_array hall hbranches]
    · exact absurd rfl (hnolist branches)
  unlisted other hother hnolist := by
    refine ⟨_, allOf_expandIn hvalue, Or.inr ⟨_, rfl, ?_⟩⟩
    rcases h other hother with ⟨branches, rfl, -⟩ | ⟨-, hsame⟩
    · exact absurd rfl (hnolist branches)
    · rw [hsame]
      exact List.mem_append_right _ (List.mem_singleton.2 rfl)

/-- An `allOf` that is lost in no way is spared. -/
theorem SparesAllOf.of_keeps (hvalue : Entries.get? members keyword.name = some value)
    (h : keyword.KeepsConstraints members value) : keyword.SparesAllOf members value := by
  intro other hother
  by_cases hlist : ∃ branches, other = .array branches
  · obtain ⟨branches, rfl⟩ := hlist
    refine Or.inl ⟨branches, rfl, fun hall => ?_⟩
    have hlisted := h.listed branches hother
    rw [allOf_expandIn hvalue] at hlisted
    unfold branchesBefore at hlisted
    rw [if_pos hall] at hlisted
    simpa using hlisted
  · have hnolist : NoList other := fun branches heq => hlist ⟨branches, heq⟩
    refine Or.inr ⟨hnolist, ?_⟩
    have hnone : keyword.branchesBefore members = [] := by
      refine branchesBefore_of_noList fun another hanother => ?_
      rw [hother] at hanother
      cases hanother
      exact hnolist
    obtain ⟨after, hafter, hthere⟩ := h.unlisted other hother hnolist
    rw [allOf_expandIn hvalue, hnone, List.nil_append] at hafter
    cases hafter
    rcases hthere with hself | ⟨branches, heq, hbranch⟩
    · exact absurd hself.symm (hnolist.expandIn _)
    · cases heq
      exact List.mem_singleton.1 hbranch

/-! ## Parts -/

/-- What is handed over in a part past data is handed over in the whole. -/
theorem handed_of_step? {child : Value} {step : Step} (hstep : document.step? step = some child)
    (hdata : ∀ key ∈ dataKeys, step ≠ .member key) : handed keyword child ⊆ handed keyword document := by
  intro given hgiven
  rcases Value.step?_cases hstep with
    ⟨members, key, rfl, rfl, hget⟩ | ⟨items, index, rfl, rfl, hitem⟩
  · have hkey : key ∉ dataKeys := fun hmem => hdata key hmem rfl
    rw [handed]
    refine List.mem_append_left _ (mem_handedInMembers.2 ⟨_, Entries.mem_of_get? hget, ?_⟩)
    rw [handedInMembers, if_neg (mt List.contains_iff_mem.1 hkey)]
    exact List.mem_append_left _ hgiven
  · exact mem_handedInItems.2 ⟨child, List.mem_of_getElem? hitem, hgiven⟩

/-- A value of the keyword is handed over with the keyword expanded in it. -/
theorem mem_handed (h : Entries.get? members keyword.name = some value)
    (hdata : keyword.name ∉ dataKeys) :
    keyword.expandIn value ∈ handed keyword (.object members) := by
  rw [handed, get?_expandMembers, h, Option.map_some, expandUnder_of_not_mem hdata]
  exact List.mem_append_right _ (Option.mem_toList.2 rfl)

/-- One step on, a part is where it was, or in a value that is handed over, or in an `allOf` that is
no list. -/
theorem remains_of_member {child : Value} {rest : List Step}
    (hget : Entries.get? members key = some child) (hdata : key ∉ dataKeys)
    {inner : List (String × Value)} (hpart : child.part? rest = some (.object inner))
    (h : (keyword.expandIn child).part? rest = some (keyword.expandIn (.object inner))) :
    keyword.Remains (.object members) (.member key :: rest) (.object inner) ∨
      keyword.LeadsIntoUnlisted (.object members) (.member key :: rest) := by
  have hplace : (keyword.expandIn (.object members)).member? key = some (keyword.expandIn child) →
      keyword.Remains (.object members) (.member key :: rest) (.object inner) := by
    intro hmember
    exact Or.inl (Value.part?_cons_eq_some.2 ⟨_, hmember, h⟩)
  cases hvalue : Entries.get? members keyword.name with
  | none =>
    refine Or.inl (hplace ?_)
    rw [member?_expandIn_of_none hvalue, hget, Option.map_some, expandUnder_of_not_mem hdata]
  | some value =>
    by_cases hname : key = keyword.name
    · subst hname
      exact Or.inl (Or.inr ⟨_, mem_handed hget hdata, rest, List.suffix_cons _ _, h⟩)
    · by_cases hall : key = "allOf"
      · subst hall
        by_cases hlist : ∃ branches, child = .array branches
        · obtain ⟨branches, rfl⟩ := hlist
          -- the part is an object, so that the way goes on into one of the branches
          cases rest with
          | nil => cases hpart
          | cons step rest =>
            have hlisted : keyword.expandIn (.array branches) =
                .array (branches.map keyword.expandIn) := by
              rw [Keyword.expandIn, expandItems_eq_map]
            rw [hlisted] at h
            refine Or.inl (Or.inl (Value.part?_cons_eq_some.2 ⟨_, allOf_expandIn hvalue, ?_⟩))
            rw [branchesBefore_of_array (Ne.symm hname) hget]
            exact Value.part?_array_append h _
        · exact Or.inr ⟨[], rest, members, value, child, rfl, rfl, hvalue, hget,
            fun branches heq => hlist ⟨branches, heq⟩⟩
      · refine Or.inl (hplace ?_)
        rw [member?_expandIn hvalue hname hall, hget, Option.map_some, expandUnder_of_not_mem hdata]

/-- Every object past data remains, unless the way to it leads into an `allOf` that is no list. -/
theorem remains_or_drops {inner : List (String × Value)} (hpast : PastData steps)
    (hpart : document.part? steps = some (.object inner)) :
    keyword.Remains document steps (.object inner) ∨ keyword.LeadsIntoUnlisted document steps := by
  induction steps generalizing document with
  | nil =>
    cases hpart
    exact Or.inl (Or.inl rfl)
  | cons step steps ih =>
    obtain ⟨child, hchild, hrest⟩ := Value.part?_cons_eq_some.1 hpart
    obtain ⟨hdata, hpast⟩ := pastData_cons.1 hpast
    rcases ih hpast hrest with (hplace | ⟨given, hgiven, rest, hsuffix, hthere⟩) | hdrops
    · rcases Value.step?_cases hchild with
        ⟨members, key, rfl, rfl, hget⟩ | ⟨items, index, rfl, rfl, hitem⟩
      · exact remains_of_member hget (fun hmem => hdata key hmem rfl) hrest hplace
      · refine Or.inl (Or.inl (Value.part?_cons_eq_some.2 ⟨_, ?_, hplace⟩))
        show (expandItems keyword items)[index]? = some (keyword.expandIn child)
        rw [expandItems_eq_map, List.getElem?_map, hitem]
        rfl
    · have hwhole : given ∈ handed keyword document := handed_of_step? hchild hdata hgiven
      exact Or.inl (Or.inr ⟨given, hwhole, rest, hsuffix.trans (List.suffix_cons step steps), hthere⟩)
    · obtain ⟨front, rest, members, value, other, rfl, hfront, hvalue, hother, hnolist⟩ := hdrops
      refine Or.inr ⟨step :: front, rest, members, value, other, rfl, ?_, hvalue, hother, hnolist⟩
      exact Value.part?_cons_eq_some.2 ⟨child, hchild, hfront⟩

/-! ## Top theorem -/

/-- An object past data with a value of the keyword keeps its constraints exactly if its `allOf`, if it
has one, is a list, or happens to say what the new branch says. The object itself is there after the
expansion, unless it stood in an `allOf` that is no list beside a value of the keyword. -/
theorem keepsConstraints_iff (hpast : PastData steps)
    (hpart : document.part? steps = some (.object members))
    (hvalue : Entries.get? members keyword.name = some value) :
    (keyword.KeepsConstraints members value ↔ keyword.SparesAllOf members value) ∧
      (keyword.Remains document steps (.object members) ∨
        keyword.LeadsIntoUnlisted document steps) :=
  ⟨⟨SparesAllOf.of_keeps hvalue, KeepsConstraints.of_spares hvalue⟩, remains_or_drops hpast hpart⟩

/-- That seats are required gets lost where it is not in a list, and stays where it is. -/
theorem keepsConstraints_iff_of_seats :
    let required : Value := .object [("required", .array [.string "seats"])]
    let even : Value := .object [("multipleOf", .ofInt 2)]
    (evenKeyword.expandIn (.object [("allOf", required), ("x-even", .bool true)]) =
        .object [("allOf", .array [even])] ∧
      ¬ evenKeyword.KeepsConstraints [("allOf", required), ("x-even", .bool true)] (.bool true)) ∧
    evenKeyword.expandIn (.object [("allOf", .array [required]), ("x-even", .bool true)]) =
        .object [("allOf", .array [required, even])] ∧
      evenKeyword.KeepsConstraints [("allOf", .array [required]), ("x-even", .bool true)]
        (.bool true) := by
  intro required even
  refine ⟨⟨rfl, fun hkeeps => ?_⟩, rfl, ?_⟩
  · have hspares := (keepsConstraints_iff pastData_nil rfl rfl).1.1 hkeeps
    rcases hspares required rfl with ⟨branches, heq, -⟩ | ⟨-, hsame⟩
    · exact absurd heq (by simp [required])
    · exact absurd hsame (by decide)
  · refine (keepsConstraints_iff pastData_nil rfl rfl).1.2 fun other hother => ?_
    cases hother
    exact Or.inl ⟨[required], rfl, fun hname => absurd hname (by decide)⟩

end Schemata.Keyword
