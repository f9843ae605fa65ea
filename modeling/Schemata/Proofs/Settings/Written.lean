import Schemata.Proofs.Toml.Lines
import Schemata.Settings.Written

/-!
# Written settings

The document of TOML that settings are written as holds these settings: all three tables, with every
entry of each.

    settings.write? = some text → Toml.read? text = some (.table settings.asEntries)   (read?_write?)
-/

namespace Schemata.Settings

open Toml

def asEntries (settings : Settings) : List (String × Item) := [
  ("discovery", .table [
    ("read_timeout_ms", .integer settings.readTimeout),
    ("roots", .list (settings.roots.map .text))]),
  ("formats", .table (Entries.mapValues .text settings.formats)),
  ("registry", .table [
    ("cache_compiled", .bool settings.policy.cacheCompiled),
    ("validate_formats", .bool settings.policy.validateFormats)])]

/-- The lines of the tables `registry` and `discovery`, with others behind them. -/
def tableLines (settings : Settings) (rest : List Char) : List Char :=
  '[' :: ("registry".toList ++ ']' :: '\n' ::
    ((writeEntry "cache_compiled" (writeBool settings.policy.cacheCompiled)).toList ++
    ((writeEntry "validate_formats" (writeBool settings.policy.validateFormats)).toList ++
    '\n' :: '[' :: ("discovery".toList ++ ']' :: '\n' ::
    ((writeEntry "roots" (writeTexts settings.roots)).toList ++
    ((writeEntry "read_timeout_ms" (toString settings.readTimeout)).toList ++ rest))))))

theorem toList_write? {settings : Settings} {text : String} (h : settings.write? = some text) :
    settings.readTimeout < Nat.pow 2 63 ∧ text.toList = tableLines settings
      ('\n' :: '[' :: ("formats".toList ++ ']' :: '\n' :: textEntries settings.formats)) := by
  unfold write? at h
  split at h
  · cases h
  next htimeout =>
  cases h
  constructor
  · exact Nat.lt_of_le_pred (Nat.pow_pos (by decide)) (Nat.not_lt.1 htimeout)
  · simp [tableLines, textEntries, String.toList_join, List.flatMap_map]

/-- The document behind the tables `registry` and `discovery`. -/
def tableNodes (settings : Settings) : Entries Node := [
  ("discovery", .table .header [
    ("read_timeout_ms", .value (.integer settings.readTimeout)),
    ("roots", .value (.list (settings.roots.map .text)))]),
  ("registry", .table .header [
    ("cache_compiled", .value (.bool settings.policy.cacheCompiled)),
    ("validate_formats", .value (.bool settings.policy.validateFormats))])]

theorem readAll_tables (settings : Settings) (htimeout : settings.readTimeout < Nat.pow 2 63)
    (rest : List Char) (fuel : Nat) :
    readAll (fuel + 6) ⟨Section.start, []⟩ (tableLines settings rest) =
      readAll fuel ⟨⟨.header, settings.tableNodes⟩, ["discovery"]⟩ rest := by
  unfold tableLines Section.start
  rw [readAll_pair (by decide) (List.all_eq_true.1 rfl) rfl (writtenAs_bool _) (writtenAs_bool _)
      (by decide),
    readAll_break, Progress.opening, readAll_pair (by decide) (List.all_eq_true.1 rfl) rfl
      (writtenAs_texts _) (writtenAs_number htimeout) (by decide)]
  simp only [tableNodes, Progress.opening, Entries.put, String.reduceEq, String.reduceLT, reduceIte]

theorem length_le_textEntries (texts : Entries String) :
    texts.length ≤ (textEntries texts).length := by
  induction texts with
  | nil => exact Nat.zero_le _
  | cons entry texts ih =>
    have hline : (writeEntry entry.1 (writeText entry.2)).toList.length ≠ 0 := by
      simp [writeEntry]
    rw [textEntries, List.flatMap_cons, List.length_append, ← textEntries, List.length_cons]
    omega

theorem entriesItem_textNodes (texts : Entries String) :
    entriesItem (textNodes texts) = Entries.mapValues .text texts := by
  induction texts with
  | nil => rfl
  | cons entry texts ih =>
    show (entry.1, _) :: entriesItem (textNodes texts) = _
    rw [ih]
    rfl

/-- The document that settings are written as holds them. -/
theorem read?_write? {settings : Settings} {text : String} (h : settings.write? = some text)
    (hformats : Entries.Ascending settings.formats) :
    Toml.read? text = some (.table settings.asEntries) := by
  obtain ⟨htimeout, htext⟩ := toList_write? h
  obtain ⟨fuel, hfuel⟩ : ∃ fuel, text.toList.length + 1 =
      fuel + 1 + settings.formats.length + 1 + 6 := by
    refine ⟨text.toList.length - settings.formats.length - 7, ?_⟩
    have hlength := length_le_textEntries settings.formats
    rw [htext]
    simp only [tableLines, List.length_cons, List.length_append]
    omega
  have hread : readAll (text.toList.length + 1) ⟨Section.start, []⟩ text.toList =
      some ⟨.header, Entries.put settings.tableNodes "formats"
        (.table .header (textNodes settings.formats))⟩ := by
    rw [hfuel, htext, readAll_tables settings htimeout, readAll_break,
      readAll_header (by decide) (List.all_eq_true.1 rfl) (by simp [tableNodes, Entries.get?]),
      ← List.append_nil (textEntries _)]
    exact readAll_texts [] settings.formats hformats [] (fuel + 1)
  have hentries : entriesItem (Entries.put settings.tableNodes "formats"
      (.table .header (textNodes settings.formats))) = settings.asEntries := by
    simp only [tableNodes, asEntries, Entries.put, String.reduceEq, String.reduceLT, reduceIte,
      entriesItem, Node.item, entriesItem_textNodes]
  unfold Toml.read?
  dsimp only
  split
  · next hmark =>
    rw [htext] at hmark
    cases hmark
  · rw [hread, Option.map_some, hentries]

end Schemata.Settings
