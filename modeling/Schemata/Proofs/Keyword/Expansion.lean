import Schemata.Keyword
import Schemata.Proofs.EntryOrder

/-!
# Expansion of keywords

What expanding a keyword does to the members of an object and to a single member, and how this
relates to the values that the keyword has in the document.

    after expansion an object has no member of the name of the keyword   (get?_expandHere_self)
    a document with k expanded is the same ↔ k does not occur in it      (expandIn_eq_self_iff)
    the values of k in a document are smaller than it                       (sizeOf_occurrence)
-/

namespace Schemata.Keyword

open Json (Value)

variable {keyword : Keyword} {name : String}

/-! ## Members -/

theorem get?_pushAllOf {members : List (String × Value)} {expansion : Value} (h : name ≠ "allOf") :
    Entries.get? (pushAllOf members expansion) name = Entries.get? members name := by
  unfold pushAllOf
  split <;> exact Entries.get?_put_of_ne members _ (Ne.symm h)

/-- Where a keyword was expanded, there is no member of its name any more. -/
theorem get?_expandHere_self (members : List (String × Value)) (h : keyword.name ≠ "allOf") :
    Entries.get? (expandHere keyword members) keyword.name = none := by
  unfold expandHere
  cases hget : Entries.get? members keyword.name with
  | none => exact hget
  | some value =>
    dsimp only
    rw [get?_pushAllOf h, Entries.get?_without, if_pos rfl]

theorem expandHere_of_not_mem {members : List (String × Value)}
    (h : keyword.name ∉ Entries.keys members) : expandHere keyword members = members := by
  unfold expandHere
  rw [(Entries.get?_eq_none_iff members keyword.name).2 h]

theorem keys_expandMembers (members : List (String × Value)) :
    Entries.keys (expandMembers keyword members) = Entries.keys members := by
  induction members with
  | nil => rfl
  | cons head members ih => exact congrArg (head.1 :: ·) ih

/-- Nothing changes among the members of an object if nothing changes inside of them and none has the
name of the keyword. -/
theorem expandHere_eq_self_iff {members : List (String × Value)} (h : keyword.name ≠ "allOf") :
    expandHere keyword (expandMembers keyword members) = members ↔
      expandMembers keyword members = members ∧ keyword.name ∉ Entries.keys members := by
  constructor
  · intro hsame
    have habsent : keyword.name ∉ Entries.keys members := by
      rw [← Entries.get?_eq_none_iff, ← hsame]
      exact get?_expandHere_self _ h
    rw [expandHere_of_not_mem (by rwa [keys_expandMembers])] at hsame
    exact ⟨hsame, habsent⟩
  · rintro ⟨hinner, habsent⟩
    rw [hinner]
    exact expandHere_of_not_mem habsent

theorem expandItems_eq_map (items : List Value) :
    expandItems keyword items = items.map keyword.expandIn := by
  induction items with
  | nil => rfl
  | cons item items ih => rw [expandItems, ih, List.map_cons]

theorem mem_expandMembers {members : List (String × Value)} {entry : String × Value} :
    entry ∈ expandMembers keyword members ↔ ∃ member ∈ members, entry =
      (member.1, if dataKeys.contains member.1 then member.2 else keyword.expandIn member.2) := by
  induction members with
  | nil => simp [expandMembers]
  | cons member members ih => simp [expandMembers, ih]

/-! ## Single members -/

/-- A single member of another name stays where it is. -/
theorem expandIn_single_of_ne (hname : name ≠ keyword.name) (member : Value) :
    keyword.expandIn (.object [(name, member)]) =
      .object [(name, if dataKeys.contains name then member else keyword.expandIn member)] := by
  have habsent : keyword.name ∉ Entries.keys [(name, member)] := by
    simpa [Entries.keys] using Ne.symm hname
  rw [expandIn, expandHere_of_not_mem (by rwa [keys_expandMembers])]
  rfl

/-- A single member of the keyword's name leaves nothing but its expansion. -/
theorem expandIn_single_self (keyword : Keyword) (member : Value) :
    keyword.expandIn (.object [(keyword.name, member)]) =
      .object [("allOf", .array [keyword.expand
        (if dataKeys.contains keyword.name then member else keyword.expandIn member)])] := by
  simp [expandIn, expandHere, expandMembers, Entries.get?, Entries.without, pushAllOf, Entries.put]

/-! ## Occurrences -/

theorem occurrencesInMembers_cons (name key : String) (member : Value)
    (members : List (String × Value)) :
    occurrencesInMembers name ((key, member) :: members) =
      (if key = name then [member]
        else if dataKeys.contains key then [] else occurrences name member) ++
      occurrencesInMembers name members := by
  conv => lhs; unfold occurrencesInMembers

theorem occurrences_single_of_ne {key : String} (hname : key ≠ name) (hdata : key ∉ dataKeys)
    (member : Value) : occurrences name (.object [(key, member)]) = occurrences name member := by
  rw [occurrences, occurrencesInMembers_cons, if_neg hname,
    if_neg (mt List.contains_iff_mem.1 hdata), occurrencesInMembers, List.append_nil]

theorem occurrences_single_self (name : String) (member : Value) :
    occurrences name (.object [(name, member)]) = [member] := by
  rw [occurrences, occurrencesInMembers_cons, if_pos rfl, occurrencesInMembers, List.append_nil]

theorem mem_occurrencesInItems {items : List Value} {value : Value} :
    value ∈ occurrencesInItems name items ↔ ∃ item ∈ items, value ∈ occurrences name item := by
  induction items with
  | nil => simp [occurrencesInItems]
  | cons item items ih => simp [occurrencesInItems, ih]

theorem mem_occurrencesInMembers {members : List (String × Value)} {value : Value} :
    value ∈ occurrencesInMembers name members ↔
      ∃ member ∈ members, value ∈ occurrences name (.object [member]) := by
  induction members with
  | nil => simp [occurrencesInMembers]
  | cons member members ih =>
    simp [occurrences, ih, occurrencesInMembers]

mutual
/-- Expanding a keyword leaves exactly those documents alone in which it does not occur. -/
theorem expandIn_eq_self_iff (hall : keyword.name ≠ "allOf") : ∀ {document : Value},
    keyword.expandIn document = document ↔ occurrences keyword.name document = []
  | .object members => by
    rw [expandIn, Value.object.injEq, expandHere_eq_self_iff hall]
    exact expandMembers_eq_self_iff hall
  | .array items => by
    rw [expandIn, Value.array.injEq]
    exact expandItems_eq_self_iff hall
  | .null | .bool _ | .number _ | .string _ => ⟨fun _ => rfl, fun _ => rfl⟩

theorem expandItems_eq_self_iff (hall : keyword.name ≠ "allOf") : ∀ {items : List Value},
    expandItems keyword items = items ↔ occurrencesInItems keyword.name items = []
  | [] => ⟨fun _ => rfl, fun _ => rfl⟩
  | item :: items => by
    rw [expandItems, occurrencesInItems, List.cons.injEq, List.append_eq_nil_iff,
      expandIn_eq_self_iff hall, expandItems_eq_self_iff hall]

theorem expandMembers_eq_self_iff (hall : keyword.name ≠ "allOf") :
    ∀ {members : List (String × Value)},
      expandMembers keyword members = members ∧ keyword.name ∉ Entries.keys members ↔
        occurrencesInMembers keyword.name members = []
  | [] => ⟨fun _ => rfl, fun _ => ⟨rfl, List.not_mem_nil⟩⟩
  | (key, member) :: members => by
    have hmember : keyword.expandIn member = member ↔ occurrences keyword.name member = [] :=
      expandIn_eq_self_iff hall
    have hmembers : expandMembers keyword members = members ∧ keyword.name ∉ Entries.keys members ↔
        occurrencesInMembers keyword.name members = [] := expandMembers_eq_self_iff hall
    rw [occurrencesInMembers_cons, List.append_eq_nil_iff, ← hmembers, expandMembers,
      List.cons.injEq, Prod.mk.injEq]
    show (_ ∧ _) ∧ keyword.name ∉ key :: Entries.keys members ↔ _
    rw [List.mem_cons, not_or]
    by_cases hkey : key = keyword.name
    · simp [hkey]
    · by_cases hdata : dataKeys.contains key
      · rw [if_pos hdata, if_neg hkey, if_pos hdata]
        simp [Ne.symm hkey]
      · rw [if_neg hdata, if_neg hkey, if_neg hdata, hmember]
        simp [Ne.symm hkey, and_assoc]
end

mutual
/-- A value of a keyword is a proper part of the document. -/
theorem sizeOf_occurrence : ∀ {document value : Value}, value ∈ occurrences name document →
    sizeOf value < sizeOf document
  | .object members, value, h => by
    have hmembers := sizeOf_occurrenceInMembers h
    rw [Value.object.sizeOf_spec]
    omega
  | .array items, value, h => by
    have hitems := sizeOf_occurrenceInItems h
    rw [Value.array.sizeOf_spec]
    omega
  | .null, _, h | .bool _, _, h | .number _, _, h | .string _, _, h => nomatch h

theorem sizeOf_occurrenceInItems : ∀ {items : List Value} {value : Value},
    value ∈ occurrencesInItems name items → sizeOf value < sizeOf items
  | [], _, h => nomatch h
  | item :: items, value, h => by
    rw [List.cons.sizeOf_spec]
    rcases List.mem_append.1 h with hitem | hitems
    · have hsize := sizeOf_occurrence hitem
      omega
    · have hsize := sizeOf_occurrenceInItems hitems
      omega

theorem sizeOf_occurrenceInMembers : ∀ {members : List (String × Value)} {value : Value},
    value ∈ occurrencesInMembers name members → sizeOf value < sizeOf members
  | [], _, h => nomatch h
  | (key, member) :: members, value, h => by
    rw [occurrencesInMembers_cons] at h
    rw [List.cons.sizeOf_spec, Prod.mk.sizeOf_spec]
    rcases List.mem_append.1 h with hmember | hmembers
    · split at hmember
      · obtain rfl := List.mem_singleton.1 hmember
        omega
      · split at hmember
        · cases hmember
        · have hsize := sizeOf_occurrence hmember
          omega
    · have hsize := sizeOf_occurrenceInMembers hmembers
      omega
end

end Schemata.Keyword
