import Schemata.Proofs.EntryOrder
import Schemata.Proofs.Toml.Values

/-!
# Lines of TOML

A header opens a table, and a key with its value is a new entry of the table that was opened last. A
table of texts is read as it was written, entry by entry.

    reading all lines is reading the first one and then those behind it          (readAll_statement)
    a header with a new name opens an empty table                                     (readAll_header)
    a line with a new key adds an entry to the open table                              (readAll_entry)
    lines with ascending keys are the entries of the open table                       (readAll_texts)
-/

namespace Schemata.Toml

open Schemata.Settings (Item)

/-- The document with the entries of one of its tables, which is the open one. -/
def Progress.opening (entries : Entries Node) (table : String) (inner : Entries Node) : Progress :=
  ⟨⟨.header, Entries.put entries table (.table .header inner)⟩, [table]⟩

/-! ## Statements -/

theorem readAll_statement {cs statement behind rest : List Char} {progress next : Progress}
    (hskip : skipLines (cs.length + 1) cs = some statement) (hne : statement ≠ [])
    (hread : readStatement progress statement = some (next, behind))
    (hfinish : finishLine behind = some rest) (fuel : Nat) :
    readAll (fuel + 1) progress cs = readAll fuel next rest := by
  rw [readAll, hskip]
  show Option.bind (some statement) _ = _
  rw [Option.bind_some]
  split
  · exact absurd rfl hne
  · rw [hread]
    show (finishLine behind).bind _ = _
    rw [hfinish]
    rfl

/-- An empty line does not count. -/
theorem readAll_break (progress : Progress) (cs : List Char) (fuel : Nat) :
    readAll (fuel + 1) progress ('\n' :: cs) = readAll (fuel + 1) progress cs := by
  rw [readAll, readAll, List.length_cons, skipLines_break]

theorem readKey_single {cs rest : List Char} {key : String}
    (hkey : readSimpleKey cs = some (key, rest)) (hdot : (skipBlanks rest).head? ≠ some '.')
    (fuel : Nat) :
    readKey (fuel + 1) cs = some ([key], skipBlanks rest) := by
  rw [readKey, hkey]
  show Option.bind (some (key, rest)) _ = _
  rw [Option.bind_some]
  dsimp only
  split
  · next heq =>
    rw [heq] at hdot
    exact absurd rfl hdot
  · rfl

theorem ne_of_isBareKeyChar {c d : Char} (hc : isBareKeyChar c = true) (hd : isBareKeyChar d = false) :
    c ≠ d := by
  rintro rfl
  rw [hc] at hd
  cases hd

theorem solid_bare {c : Char} (hc : isBareKeyChar c = true) (cs : List Char) : Solid (c :: cs) where
  blanks := by
    have hblank : isBlankChar c = false := by
      unfold isBlankChar
      rw [Bool.or_eq_false_iff]
      exact ⟨decide_eq_false (ne_of_isBareKeyChar hc rfl),
        decide_eq_false (ne_of_isBareKeyChar hc rfl)⟩
    exact List.dropWhile_cons_of_neg (Bool.eq_false_iff.1 hblank)
  comment := by
    unfold skipComment
    split
    · next heq =>
      cases heq
      cases hc
    · rfl
  plain := lineBreak?_eq_none (fun h => ne_of_isBareKeyChar hc rfl (Option.some.inj h))
    fun h => ne_of_isBareKeyChar hc rfl (Option.some.inj h)

theorem solid_name {name : String} (hne : name ≠ "")
    (hbare : ∀ c ∈ name.toList, isBareKeyChar c = true) (rest : List Char) : Solid (name.toList ++ rest) := by
  cases hchars : name.toList with
  | nil => exact absurd (String.toList_eq_nil_iff.1 hchars) hne
  | cons c chars =>
    rw [hchars] at hbare
    exact solid_bare (hbare c List.mem_cons_self) _

/-! ## Headers -/

/-- A header of a table that is not there yet. -/
theorem readStatement_header {progress : Progress} {name : String} (hne : name ≠ "")
    (hbare : ∀ c ∈ name.toList, isBareKeyChar c = true)
    (hnew : Entries.get? progress.document.entries name = none) (rest : List Char) :
    readStatement progress ('[' :: (name.toList ++ ']' :: rest)) =
      some (⟨{ progress.document with
        entries := Entries.put progress.document.entries name (.table .header []) }, [name]⟩, rest) := by
  have hsimple : readSimpleKey (name.toList ++ ']' :: rest) = some (name, ']' :: rest) := by
    rw [readSimpleKey_bare (mt String.toList_eq_nil_iff.1 hne) hbare rfl, String.ofList_toList]
  have hopen : progress.document.addHeader false [name] = some { progress.document with
      entries := Entries.put progress.document.entries name (.table .header []) } := by
    show Section.openTable name progress.document = _
    unfold Section.openTable
    rw [hnew]
  have hheader : readHeader false progress (name.toList ++ ']' :: rest) =
      some (⟨{ progress.document with
        entries := Entries.put progress.document.entries name (.table .header []) }, [name]⟩, rest) := by
    rw [readHeader, (solid_name hne hbare _).blanks,
      readKey_single hsimple (by simp [skipBlanks, isBlankChar])]
    show (progress.document.addHeader false [name]).bind _ = _
    rw [hopen]
    rfl
  unfold readStatement
  split
  · next heq =>
    cases hchars : name.toList with
    | nil => exact absurd (String.toList_eq_nil_iff.1 hchars) hne
    | cons c chars =>
      rw [hchars] at hbare heq
      cases heq
      exact absurd (hbare _ List.mem_cons_self) (by decide)
  · next heq =>
    cases heq
    exact hheader
  · next heq => exact absurd rfl (heq _)

/-- A header opens an empty table. -/
theorem readAll_header {entries : Entries Node} {name : String} (hne : name ≠ "")
    (hbare : ∀ c ∈ name.toList, isBareKeyChar c = true) (hnew : Entries.get? entries name = none)
    (opened : List String) (rest : List Char) (fuel : Nat) :
    readAll (fuel + 1) ⟨⟨.header, entries⟩, opened⟩ ('[' :: (name.toList ++ ']' :: '\n' :: rest)) =
      readAll fuel (.opening entries name []) rest :=
  readAll_statement (skipLines_solid ⟨rfl, rfl, rfl⟩ _) (List.cons_ne_nil _ _)
    (readStatement_header hne hbare hnew _) rfl fuel

/-! ## Entries -/

/-- A new entry of the open table. -/
theorem change_opening {entries inner : Entries Node} {table key : String}
    (hkey : key ∉ Entries.keys inner) (item : Item) : Section.change .passage (Section.addKey [key] item) [table]
        (Progress.opening entries table inner).document =
      some (Progress.opening entries table (Entries.put inner key (.value item))).document := by
  have hadd : Section.addKey [key] item ⟨.header, inner⟩ =
      some ⟨.header, Entries.put inner key (.value item)⟩ := by
    show Section.addValue false key item ⟨.header, inner⟩ = _
    have hmissing : Entries.hasKey inner key = false := by
      rw [Entries.hasKey, (Entries.get?_eq_none_iff inner key).2 hkey]
      rfl
    unfold Section.addValue
    rw [if_neg (by simp), hmissing, if_neg Bool.false_ne_true]
  unfold Progress.opening Section.change
  dsimp only
  rw [Entries.get?_put_self]
  dsimp only
  rw [if_neg (by simp), Section.change, hadd, Option.map_some, Entries.put_put]

theorem readStatement_of_key {progress : Progress} {cs : List Char} (h : cs.head? ≠ some '[') :
    readStatement progress cs = readEntry progress cs := by
  unfold readStatement
  split
  · exact absurd rfl h
  · exact absurd rfl h
  · rfl

/-- A key starts with a character of a bare key or with a quote. -/
theorem writeKey_head (key : String) : ∃ c behind, (writeKey key).toList = c :: behind ∧
    (isBareKeyChar c = true ∨ c = '"' ∨ c = '\'') := by
  unfold writeKey
  dsimp only
  split
  · next hbare =>
    simp only [Bool.and_eq_true, Bool.not_eq_true', List.isEmpty_eq_false_iff,
      List.all_eq_true] at hbare
    obtain ⟨hne, hall⟩ := hbare
    exact ⟨_, _, (List.cons_head_tail hne).symm, Or.inl (hall _ (List.head_mem hne))⟩
  split
  · exact ⟨_, _, String.toList_ofList, Or.inr (Or.inl rfl)⟩
  split
  · exact ⟨_, _, String.toList_ofList, Or.inr (Or.inr rfl)⟩
  · exact ⟨_, _, String.toList_ofList, Or.inr (Or.inl rfl)⟩

/-- A line that starts with a key is an entry. -/
theorem readStatement_writeKey (progress : Progress) (key : String) (rest : List Char) :
    Solid ((writeKey key).toList ++ rest) ∧ (writeKey key).toList ++ rest ≠ [] ∧
      readStatement progress ((writeKey key).toList ++ rest) =
        readEntry progress ((writeKey key).toList ++ rest) := by
  obtain ⟨c, behind, hkey, hc⟩ := writeKey_head key
  rw [hkey, List.cons_append]
  refine ⟨?_, List.cons_ne_nil _ _, readStatement_of_key ?_⟩
  · rcases hc with hbare | rfl | rfl
    · exact solid_bare hbare _
    · exact ⟨rfl, rfl, rfl⟩
    · exact ⟨rfl, rfl, rfl⟩
  · rw [List.head?_cons, Ne, Option.some.injEq]
    rcases hc with hbare | rfl | rfl
    · exact ne_of_isBareKeyChar hbare rfl
    · decide
    · decide

theorem readEntry_opening {entries inner : Entries Node} {table key value : String} {item : Item}
    (hkey : key ∉ Entries.keys inner) (hvalue : WrittenAs value item) (rest : List Char) :
    readEntry (.opening entries table inner) ((writeEntry key value).toList ++ rest) =
      some (.opening entries table (Entries.put inner key (.value item)), '\n' :: rest) := by
  have hline : (writeEntry key value).toList ++ rest =
      (writeKey key).toList ++ ' ' :: '=' :: ' ' :: (value.toList ++ '\n' :: rest) := by
    simp [writeEntry]
  have hsimple : readSimpleKey ((writeEntry key value).toList ++ rest) =
      some (key, ' ' :: '=' :: ' ' :: (value.toList ++ '\n' :: rest)) := by
    rw [hline]
    exact readSimpleKey_writeKey key rfl
  have hread : readValue ((' ' :: (value.toList ++ '\n' :: rest)).length + 1)
      (skipBlanks (' ' :: (value.toList ++ '\n' :: rest))) = some (item, '\n' :: rest) := by
    have hblank : skipBlanks (' ' :: (value.toList ++ '\n' :: rest)) = value.toList ++ '\n' :: rest :=
      hvalue.starts _
    rw [hblank]
    refine hvalue.reads _ rest ?_
    rw [List.length_cons, List.length_append, String.length_toList]
    omega
  unfold readEntry
  rw [readKey_single hsimple (by simp [skipBlanks, isBlankChar])]
  show (readValue ((' ' :: (value.toList ++ '\n' :: rest)).length + 1)
      (skipBlanks (' ' :: (value.toList ++ '\n' :: rest)))).bind _ = _
  rw [hread, Option.bind_some]
  show (Section.change .passage (Section.addKey [key] item) [table] _).bind _ = _
  rw [change_opening hkey item]
  rfl

/-- A line with a new key adds an entry to the open table. -/
theorem readAll_entry {entries inner : Entries Node} {table key value : String} {item : Item}
    (hkey : key ∉ Entries.keys inner) (hvalue : WrittenAs value item) (rest : List Char) (fuel : Nat) :
    readAll (fuel + 1) (.opening entries table inner) ((writeEntry key value).toList ++ rest) =
      readAll fuel (.opening entries table (Entries.put inner key (.value item))) rest := by
  have hentry : readEntry (.opening entries table inner) ((writeEntry key value).toList ++ rest) = _ :=
    readEntry_opening hkey hvalue rest
  have hline : (writeEntry key value).toList ++ rest =
      (writeKey key).toList ++ (" = ".toList ++ value.toList ++ '\n' :: rest) := by
    simp [writeEntry]
  rw [hline] at hentry ⊢
  obtain ⟨hsolid, hne, hstatement⟩ := readStatement_writeKey (.opening entries table inner) key
    (" = ".toList ++ value.toList ++ '\n' :: rest)
  exact readAll_statement (skipLines_solid hsolid _) hne (hstatement.trans hentry) rfl fuel

/-- A table with two entries. -/
theorem readAll_pair {entries : Entries Node} {name key value other otherValue : String}
    {item otherItem : Item} (hne : name ≠ "") (hbare : ∀ c ∈ name.toList, isBareKeyChar c = true)
    (hnew : Entries.get? entries name = none) (hvalue : WrittenAs value item)
    (hother : WrittenAs otherValue otherItem) (hkeys : other ≠ key) (opened : List String)
    (rest : List Char) (fuel : Nat) :
    readAll (fuel + 3) ⟨⟨.header, entries⟩, opened⟩ ('[' :: (name.toList ++ ']' :: '\n' ::
        ((writeEntry key value).toList ++ ((writeEntry other otherValue).toList ++ rest)))) =
      readAll fuel (.opening entries name
        (Entries.put [(key, .value item)] other (.value otherItem))) rest := by
  rw [readAll_header hne hbare hnew, readAll_entry List.not_mem_nil hvalue, readAll_entry ?_ hother]
  · rfl
  · simpa [Entries.put, Entries.keys] using hkeys

def textEntries (texts : Entries String) : List Char :=
  texts.flatMap fun entry => (writeEntry entry.1 (writeText entry.2)).toList

def textNodes (texts : Entries String) : Entries Node :=
  Entries.mapValues (fun text => .value (.text text)) texts

/-- Lines with ascending keys are the entries of the open table. -/
theorem readAll_texts {entries : Entries Node} {table : String} (before texts : Entries String)
    (hascends : Entries.Ascending (before ++ texts)) (rest : List Char) (fuel : Nat) :
    readAll (fuel + texts.length) (.opening entries table (textNodes before))
        (textEntries texts ++ rest) =
      readAll fuel (.opening entries table (textNodes (before ++ texts))) rest := by
  induction texts generalizing before with
  | nil =>
    rw [List.append_nil]
    rfl
  | cons entry texts ih =>
    have habove : ∀ node ∈ textNodes before, node.1 < entry.1 := by
      intro node hnode
      obtain ⟨old, hold, rfl⟩ := List.mem_map.1 hnode
      exact (List.pairwise_append.1 hascends).2.2 old hold entry List.mem_cons_self
    have hkey : entry.1 ∉ Entries.keys (textNodes before) := by
      intro hmem
      obtain ⟨node, hnode, heq⟩ := List.mem_map.1 hmem
      exact String.lt_irrefl _ (heq ▸ habove node hnode)
    have hput : Entries.put (textNodes before) entry.1 (.value (.text entry.2)) =
        textNodes (before ++ [entry]) := by
      rw [Entries.put_of_above habove, textNodes, textNodes, Entries.mapValues, Entries.mapValues,
        List.map_append]
      rfl
    have hlines : textEntries (entry :: texts) ++ rest =
        (writeEntry entry.1 (writeText entry.2)).toList ++ (textEntries texts ++ rest) := by
      rw [textEntries, List.flatMap_cons, List.append_assoc]
      rfl
    have hstep : before ++ entry :: texts = before ++ [entry] ++ texts := by simp
    rw [hstep] at hascends ⊢
    rw [hlines, List.length_cons, ← Nat.add_assoc, readAll_entry hkey (writtenAs_text _), hput]
    exact ih _ hascends

end Schemata.Toml
