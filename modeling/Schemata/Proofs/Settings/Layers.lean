import Schemata.Proofs.EntryOrder
import Schemata.Proofs.Settings.Written
import Schemata.Proofs.Unicode.LowerText
import Schemata.Settings.Layers
import Schemata.Settings.Reading

/-!
# Layers of written settings

What written settings leave when they are laid over nothing or over themselves: the same tables, with
formats under the lower-case forms of their names. However often they are laid over, every pattern
comes from a name with that form, and every form is there.

    what is under a name comes from a name that has it as its form         (get?_underLower)
    layOver (.table (withFormats settings formats).asEntries) settings.asEntries =
      .table (withFormats settings (underLower formats settings.formats)).asEntries
                                                                                 (layOver_asEntries)
    ofItem? (.table settings.asEntries) = some settings                            (ofItem?_asEntries)
-/

namespace Schemata.Settings

/-! ## Algorithm -/

/-- Entries laid over others under the lower-case forms of their names. -/
def underLower (below incoming : Entries String) : Entries String :=
  incoming.foldl (fun entries entry => Entries.put entries (Unicode.lowerText entry.1) entry.2) below

def withFormats (settings : Settings) (formats : Entries String) : Settings :=
  { settings with formats }

/-! ## Names in lower case -/

variable {below incoming : Entries String}

theorem ascending_underLower (h : Entries.Ascending below) (incoming : Entries String) :
    Entries.Ascending (underLower below incoming) := by
  induction incoming generalizing below with
  | nil => exact h
  | cons entry incoming ih => exact ih (h.put _ _)

/-- What is under a name was there or comes from a name that has it as its lower-case form. -/
theorem get?_underLower {name pattern : String}
    (h : Entries.get? (underLower below incoming) name = some pattern) :
    (∃ original, Unicode.lowerText original = name ∧ (original, pattern) ∈ incoming) ∨
      Entries.get? below name = some pattern := by
  induction incoming generalizing below with
  | nil => exact Or.inr h
  | cons entry incoming ih =>
    rcases ih h with ⟨original, hform, hmem⟩ | hput
    · exact Or.inl ⟨original, hform, List.mem_cons_of_mem _ hmem⟩
    · rw [Entries.get?_put] at hput
      split at hput
      · next hname =>
        cases hput
        exact Or.inl ⟨entry.1, hname.symm, List.mem_cons_self⟩
      · exact Or.inr hput

/-- The lower-case form of every name is there. -/
theorem mem_keys_underLower {name : String} : name ∈ Entries.keys (underLower below incoming) ↔
    name ∈ Entries.keys below ∨
      ∃ original ∈ Entries.keys incoming, Unicode.lowerText original = name := by
  induction incoming generalizing below with
  | nil => simp [underLower, Entries.keys]
  | cons entry incoming ih =>
    show name ∈ Entries.keys (underLower (Entries.put below _ _) incoming) ↔ _
    rw [ih, Entries.mem_keys_put]
    constructor
    · rintro ((rfl | hbelow) | ⟨original, hmem, hform⟩)
      · exact Or.inr ⟨entry.1, List.mem_cons_self, rfl⟩
      · exact Or.inl hbelow
      · exact Or.inr ⟨original, List.mem_cons_of_mem _ hmem, hform⟩
    · rintro (hbelow | ⟨original, hmem, hform⟩)
      · exact Or.inl (Or.inr hbelow)
      · rcases List.mem_cons.1 hmem with rfl | hmem
        · exact Or.inl (Or.inl hform.symm)
        · exact Or.inr ⟨original, hmem, hform⟩

/-! ## Names -/

/-- A name of small letters and lines, which has no other case and is no path. -/
structure IsPlain (name : String) : Prop where
  lower : Unicode.lowerText name = name
  single : Item.path? name = some (name, [])

def smallLetters : List Char := "abcdefghijklmnopqrstuvwxyz_".toList

theorem lowercase_of_mem_smallLetters {c : Char} (hc : c ∈ smallLetters) :
    Unicode.lowercase c = [c] := by
  have hall : (smallLetters.all fun c => decide (Unicode.lowercase c = [c])) = true := by
    decide +kernel
  exact of_decide_eq_true (List.all_eq_true.1 hall c hc)

theorem isPlain_of_letters {name : String} (hletters : name.toList.all smallLetters.contains = true)
    (hsingle : Item.path? name = some (name, [])) : IsPlain name where
  lower := Unicode.lowerText_eq_self fun c hc =>
    lowercase_of_mem_smallLetters (List.contains_iff_mem.1 (List.all_eq_true.1 hletters c hc))
  single := hsingle

theorem isPlain_registry : IsPlain "registry" := isPlain_of_letters (by decide) (by decide)

theorem isPlain_discovery : IsPlain "discovery" := isPlain_of_letters (by decide) (by decide)

theorem isPlain_formats : IsPlain "formats" := isPlain_of_letters (by decide) (by decide)

theorem isPlain_cacheCompiled : IsPlain "cache_compiled" := isPlain_of_letters (by decide) (by decide)

theorem isPlain_validateFormats : IsPlain "validate_formats" :=
  isPlain_of_letters (by decide) (by decide)

theorem isPlain_readTimeout : IsPlain "read_timeout_ms" := isPlain_of_letters (by decide) (by decide)

theorem isPlain_roots : IsPlain "roots" := isPlain_of_letters (by decide) (by decide)

/-! ## Joining -/

namespace Item

/-- What is laid over the place of a plain name becomes the entry of that name. -/
theorem assignPath_of_isPlain {name : String} (h : IsPlain name) (below value : Item) :
    assignPath below name value = assign below name value := by
  unfold assignPath
  dsimp only
  rw [h.lower, h.single]

/-- Something that is no table hides what lies below it. -/
theorem assign_of_isPlain {name : String} (h : IsPlain name) {value : Item}
    (hvalue : ∀ entries, value ≠ .table entries) (entries : List (String × Item)) :
    assign (.table entries) name value = .table (Entries.put entries name value) := by
  rw [assign, h.lower]
  · rfl
  · exact hvalue

theorem assign_table {name : String} (h : IsPlain name) (entries incoming : List (String × Item)) :
    assign (.table entries) name (.table incoming) = .table (Entries.put entries name
      (assignAll ((Entries.get? entries name).getD (.table [])) incoming)) := by
  rw [assign, h.lower]
  rfl

theorem assignAll_texts (below incoming : Entries String) :
    assignAll (.table (Entries.mapValues .text below)) (Entries.mapValues .text incoming) =
      .table (Entries.mapValues .text (underLower below incoming)) := by
  induction incoming generalizing below with
  | nil => rfl
  | cons entry incoming ih =>
    have hput : assign (.table (Entries.mapValues .text below)) entry.1 (.text entry.2) =
        .table (Entries.mapValues .text (Entries.put below (Unicode.lowerText entry.1) entry.2)) := by
      rw [assign, Entries.mapValues_put]
      · rfl
      · exact fun _ => Item.noConfusion
    show assignAll (assign _ entry.1 (.text entry.2)) (Entries.mapValues .text incoming) = _
    rw [hput, ih]
    rfl

/-- A table of two values that are no tables, over nothing or over a table of the same names. -/
theorem assign_pair {name key other : String} (hname : IsPlain name) (hkey : IsPlain key)
    (hother : IsPlain other) (hless : key < other) {value otherValue : Item}
    (hvalue : ∀ entries, value ≠ .table entries) (hotherValue : ∀ entries, otherValue ≠ .table entries)
    {entries : List (String × Item)} (hentries : ∀ inner, Entries.get? entries name = some inner →
      ∃ old otherOld, inner = .table [(key, old), (other, otherOld)]) :
    assign (.table entries) name (.table [(key, value), (other, otherValue)]) =
      .table (Entries.put entries name (.table [(key, value), (other, otherValue)])) := by
  have hne : key ≠ other := by
    rintro rfl
    exact String.lt_irrefl key hless
  rw [assign_table hname, assignAll, assignAll, assignAll]
  cases hget : Entries.get? entries name with
  | none =>
    rw [Option.getD_none, assign_of_isPlain hkey hvalue, assign_of_isPlain hother hotherValue]
    simp [Entries.put, hne, String.lt_asymm hless]
  | some inner =>
    obtain ⟨old, otherOld, rfl⟩ := hentries inner hget
    rw [Option.getD_some, assign_of_isPlain hkey hvalue, assign_of_isPlain hother hotherValue]
    simp [Entries.put, hne, String.lt_asymm hless]

/-- Settings over entries that are such tables themselves, as far as they are there. -/
theorem layOver_tables {settings : Settings} {entries : List (String × Item)} {below : Entries String}
    (hdiscovery : ∀ inner, Entries.get? entries "discovery" = some inner →
      ∃ old other, inner = .table [("read_timeout_ms", old), ("roots", other)])
    (hregistry : ∀ inner, Entries.get? entries "registry" = some inner →
      ∃ old other, inner = .table [("cache_compiled", old), ("validate_formats", other)])
    (hformats : (Entries.get? entries "formats").getD (.table []) =
      .table (Entries.mapValues .text below)) :
    layOver (.table entries) settings.asEntries =
      .table (Entries.put (Entries.put (Entries.put entries "discovery" (.table [
        ("read_timeout_ms", .integer settings.readTimeout),
        ("roots", .list (settings.roots.map .text))]))
      "formats" (.table (Entries.mapValues .text (underLower below settings.formats))))
      "registry" (.table [
        ("cache_compiled", .bool settings.policy.cacheCompiled),
        ("validate_formats", .bool settings.policy.validateFormats)])) := by
  unfold layOver asEntries
  rw [List.foldl_cons, List.foldl_cons, List.foldl_cons, List.foldl_nil,
    assignPath_of_isPlain isPlain_discovery, assignPath_of_isPlain isPlain_formats,
    assignPath_of_isPlain isPlain_registry,
    assign_pair isPlain_discovery isPlain_readTimeout isPlain_roots (by decide) (by simp) (by simp)
      hdiscovery,
    assign_table isPlain_formats, Entries.get?_put_of_ne _ _ (by decide), hformats, assignAll_texts]
  refine assign_pair isPlain_registry isPlain_cacheCompiled isPlain_validateFormats (by decide)
    (by simp) (by simp) fun inner hinner => hregistry inner ?_
  rwa [Entries.get?_put_of_ne _ _ (by decide), Entries.get?_put_of_ne _ _ (by decide)] at hinner

/-- Settings over nothing. -/
theorem layOver_nothing (settings : Settings) : layOver (.table []) settings.asEntries =
    .table (settings.withFormats (underLower [] settings.formats)).asEntries := by
  have hnothing : (Entries.get? ([] : List (String × Item)) "formats").getD (.table []) =
      .table (Entries.mapValues .text []) := rfl
  rw [layOver_tables (by simp) (by simp) hnothing]
  simp only [Entries.put, asEntries, withFormats, String.reduceEq, String.reduceLT, reduceIte]

/-- Settings over themselves, with other formats below. -/
theorem layOver_asEntries (settings : Settings) (formats : Entries String) :
    layOver (.table (settings.withFormats formats).asEntries) settings.asEntries =
      .table (settings.withFormats (underLower formats settings.formats)).asEntries := by
  have hformats : (Entries.get? (settings.withFormats formats).asEntries "formats").getD (.table []) =
      .table (Entries.mapValues .text formats) := rfl
  rw [layOver_tables ?_ ?_ hformats]
  · simp only [Entries.put, asEntries, withFormats, String.reduceEq, String.reduceLT, reduceIte]
  · rintro inner hinner
    cases hinner
    exact ⟨_, _, rfl⟩
  · rintro inner hinner
    cases hinner
    exact ⟨_, _, rfl⟩

end Item

/-! ## Reading -/

theorem mapM_text? (texts : List String) : (texts.map Item.text).mapM Item.text? = some texts := by
  induction texts with
  | nil => rfl
  | cons text texts ih =>
    rw [List.map_cons, List.mapM_cons, ih]
    rfl

theorem textsByName?_texts (texts : Entries String) :
    textsByName? (.table (Entries.mapValues .text texts)) = some texts := by
  unfold textsByName?
  induction texts with
  | nil => rfl
  | cons entry texts ih =>
    dsimp only at ih ⊢
    rw [Entries.mapValues, List.map_cons, List.mapM_cons, ← Entries.mapValues, ih]
    rfl

theorem word?_integer {n : Nat} (hn : n < Nat.pow 2 63) : Item.word? (.integer n) = some n := by
  have hlimit : n ≤ Item.wordLimit := Nat.le_trans (Nat.le_of_lt hn) (by decide)
  unfold Item.word?
  dsimp only
  rw [if_pos ⟨Int.natCast_nonneg n, Int.ofNat_le.2 hlimit⟩, Int.toNat_natCast]

/-- Settings are read from their entries. -/
theorem ofItem?_asEntries {settings : Settings} (htimeout : settings.readTimeout < Nat.pow 2 63) :
    ofItem? (.table settings.asEntries) = some settings := by
  have hroots := mapM_text? settings.roots
  have hformats := textsByName?_texts settings.formats
  have htime := word?_integer htimeout
  simp [ofItem?, itemsOf?, asEntries, Entries.get?, itemOr, policyOfItem?, discoveryOfItem?,
    textsOfItem?, hroots, hformats, htime, Item.bool?]

end Schemata.Settings
