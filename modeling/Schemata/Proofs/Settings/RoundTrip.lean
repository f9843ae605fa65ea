import Schemata.Proofs.Files.Writing
import Schemata.Proofs.Outcomes
import Schemata.Proofs.Settings.Layers
import Schemata.Settings.Loading

/-!
# Saved settings

What is loaded from a file that settings were saved in: the same policy, the same roots, the same time
to wait and the same formats, but that every name of a format has become its lower-case form.

    LowerForms formats below → LowerForms formats (underLower below formats)      (LowerForms.again)
    a file that settings were saved in holds their entries                       (readRequired_saved)
    settings.save files path = .ok written → no other file holds settings →
      ∃ loaded, load written surroundings (some path) = .ok loaded ∧ ReadBack settings loaded ∧
        (loaded = settings ↔ every name of a format is its own lower-case form)           (load_saved)
-/

namespace Schemata.Settings

open Files (FileSystem)

/-! ## Algorithm -/

/-- Formats under the lower-case forms of their names. Where several names have one form, one of their
patterns is there. -/
structure LowerForms (formats lower : Entries String) : Prop where
  ascends : Entries.Ascending lower
  comes : ∀ {name pattern}, Entries.get? lower name = some pattern →
    ∃ original, Unicode.lowerText original = name ∧ (original, pattern) ∈ formats
  stays : ∀ original ∈ Entries.keys formats, Unicode.lowerText original ∈ Entries.keys lower

/-- What settings are when they are loaded again: the same but for the names of formats. -/
structure ReadBack (saved loaded : Settings) : Prop where
  policy : loaded.policy = saved.policy
  roots : loaded.roots = saved.roots
  readTimeout : loaded.readTimeout = saved.readTimeout
  formats : LowerForms saved.formats loaded.formats

/-- The file of a path is the only one that settings are loaded from: what is found in the usual
places and in that of the user is the same file, and is read as TOML. -/
def OnlyFile (files : FileSystem) (surroundings : Surroundings) (path : String) : Prop :=
  ∀ other ∈ usualPlaces ++ (userPlace? files surroundings).toList, ∀ location,
    locate files other = .ok location →
      files.place location.path = files.place path ∧ location.read? = Toml.read?

/-! ## Names in lower case -/

variable {settings : Settings} {formats below : Entries String}

/-- Formats over nothing, or over what was under their lower-case forms already. -/
theorem LowerForms.over (hascends : Entries.Ascending below)
    (hbelow : ∀ {name pattern}, Entries.get? below name = some pattern →
      ∃ original, Unicode.lowerText original = name ∧ (original, pattern) ∈ formats) :
    LowerForms formats (underLower below formats) where
  ascends := ascending_underLower hascends formats
  comes h := (get?_underLower h).elim id hbelow
  stays original hmem := mem_keys_underLower.2 (Or.inr ⟨original, hmem, rfl⟩)

/-- Formats keep their names only if every name is its own lower-case form. -/
theorem LowerForms.eq_iff {lower : Entries String} (h : LowerForms formats lower)
    (hformats : Entries.Ascending formats) :
    lower = formats ↔ ∀ name ∈ Entries.keys formats, Unicode.lowerText name = name := by
  constructor
  · rintro rfl name hmem
    obtain ⟨pattern, hget⟩ := Option.isSome_iff_exists.1 ((Entries.get?_isSome_iff _ _).2 hmem)
    obtain ⟨original, hform, -⟩ := h.comes hget
    rw [← hform, Unicode.lowerText_lowerText]
  · intro hplain
    refine h.ascends.ext hformats fun name => ?_
    cases hget : Entries.get? lower name with
    | some pattern =>
      obtain ⟨original, hform, hmem⟩ := h.comes hget
      have hkey : original ∈ Entries.keys formats := List.mem_map_of_mem hmem
      rw [hplain original hkey] at hform
      rw [← hform, Entries.get?_of_mem hformats hmem]
    | none =>
      rw [Entries.get?_eq_none_iff] at hget
      refine ((Entries.get?_eq_none_iff _ _).2 fun hmem => hget ?_).symm
      have hstays := h.stays name hmem
      rwa [hplain name hmem] at hstays

/-! ## Layers -/

/-- What stands after some sources: nothing, or settings with formats under lower-case names. -/
inductive Layered (settings : Settings) : Item → Prop
  | nothing : Layered settings (.table [])
  | settings {lower : Entries String} (h : LowerForms settings.formats lower) :
      Layered settings (.table (settings.withFormats lower).asEntries)

theorem Layered.layOver_asEntries {below : Item} (h : Layered settings below) :
    ∃ lower, LowerForms settings.formats lower ∧
      Item.layOver below settings.asEntries = .table (settings.withFormats lower).asEntries := by
  cases h with
  | nothing => exact ⟨_, .over Entries.ascending_nil (by simp), Item.layOver_nothing settings⟩
  | settings h => exact ⟨_, .over h.ascends h.comes, Item.layOver_asEntries settings _⟩

/-- Sources that are empty or hold the settings. -/
theorem Layered.foldl {below : Item} (h : Layered settings below)
    {sources : List (List (String × Item))}
    (hsources : ∀ source ∈ sources, source = [] ∨ source = settings.asEntries) :
    Layered settings (sources.foldl Item.layOver below) := by
  induction sources generalizing below with
  | nil => exact h
  | cons source sources ih =>
    obtain ⟨hsource, hrest⟩ := List.forall_mem_cons.1 hsources
    refine ih ?_ hrest
    rcases hsource with rfl | rfl
    · exact h
    · obtain ⟨lower, hlower, hlaid⟩ := h.layOver_asEntries
      rw [hlaid]
      exact .settings hlower

/-! ## Files -/

variable {files written : FileSystem} {path text : String}

theorem save_eq_ok_iff : settings.save files path = .ok written ↔
    ∃ text, settings.write? = some text ∧ files.writeText path text = .ok written := by
  unfold save writeTo
  cases settings.write? with
  | none => simp
  | some text =>
    cases hwritten : files.writeText path text with
    | error trouble => simp [hwritten]
    | ok written => simp [hwritten]

theorem locate_of_isFile (hfile : files.isFile path = true)
    (htoml : Files.extension? path = some "toml") : locate files path = .ok ⟨path, Toml.read?⟩ := by
  unfold locate
  rw [if_pos hfile, htoml]
  rfl

/-- What is located is a file at the path, or at the path with a known ending. -/
theorem isFile_of_locate {location : Location} (h : locate files path = .ok location) :
    files.isFile location.path = true ∧
      location.path ∈ path :: readers.map fun reader => path ++ "." ++ reader.1 := by
  unfold locate at h
  split at h
  · next hfile =>
    split at h
    · cases h
      exact ⟨hfile, List.mem_cons_self⟩
    · cases h
  · split at h
    · next ending read? hfind =>
      cases h
      refine ⟨by simpa using List.find?_some hfind, List.mem_cons_of_mem _ ?_⟩
      exact List.mem_map.2 ⟨_, List.mem_of_find?_eq_some hfind, rfl⟩
    · cases h

/-- A located file with a text is fetched. -/
theorem fetch_of_locate {location : Location} (hlocate : locate files path = .ok location)
    (htext : files.readText location.path = .ok text) : fetch files path = .ok (location, text) := by
  unfold fetch
  rw [hlocate, ok_bind, htext]

theorem readOptional_of_locate_error {failure : Failure} (h : locate files path = .error failure) :
    readOptional files path = .ok [] := by
  unfold readOptional fetch
  rw [h]
  rfl

section

variable (hsave : settings.save files path = .ok written)
  (hformats : Entries.Ascending settings.formats)

include hsave hformats

/-- Every path to the saved file leads to the entries of the settings. -/
theorem fetch_saved {other : String} {location : Location}
    (hlocate : locate written other = .ok location)
    (hsame : written.place location.path = written.place path) (hread : location.read? = Toml.read?) :
    ∃ text, fetch written other = .ok (location, text) ∧
      parse location text = .ok settings.asEntries := by
  obtain ⟨text, htext, hwritten⟩ := save_eq_ok_iff.1 hsave
  refine ⟨text, fetch_of_locate hlocate ?_, ?_⟩
  · exact Files.FileSystem.readText_of_writeText hwritten (isFile_of_locate hlocate).1 hsame
  · unfold parse
    rw [hread, read?_write? htext hformats]

/-- The file that is asked for holds the settings. -/
theorem readRequired_saved (htoml : Files.extension? path = some "toml") :
    readRequired written path = .ok settings.asEntries := by
  obtain ⟨text, htext, hwritten⟩ := save_eq_ok_iff.1 hsave
  have hlocate := locate_of_isFile (Files.FileSystem.isFile_of_writeText hwritten) htoml
  obtain ⟨text, hfetch, hparse⟩ := fetch_saved hsave hformats hlocate rfl rfl
  unfold readRequired
  rw [hfetch]
  exact hparse

/-- Another file that is asked for in vain holds nothing, and the same file holds the settings. -/
theorem readOptional_saved {surroundings : Surroundings} (honly : OnlyFile written surroundings path)
    {other : String} (hother : other ∈ usualPlaces ++ (userPlace? written surroundings).toList) :
    ∃ source, readOptional written other = .ok source ∧
      (source = [] ∨ source = settings.asEntries) := by
  cases hlocate : locate written other with
  | error failure => exact ⟨[], readOptional_of_locate_error hlocate, Or.inl rfl⟩
  | ok location =>
    obtain ⟨hsame, hread⟩ := honly other hother location hlocate
    obtain ⟨text, hfetch, hparse⟩ := fetch_saved hsave hformats hlocate hsame hread
    refine ⟨settings.asEntries, ?_, Or.inr rfl⟩
    unfold readOptional
    rw [hfetch]
    exact hparse

end

theorem ofEnvironment_eq_nil {environment : List (String × String)}
    (h : ∀ entry ∈ environment, variablePath? entry.1 = none) : ofEnvironment environment = [] := by
  refine List.filterMap_eq_nil_iff.2 fun entry hentry => ?_
  dsimp only
  rw [h entry hentry]
  rfl

/-- Settings are loaded if every source can be read and all of them together are settings. -/
theorem load_of_sources {surroundings : Surroundings} {usual own asked : List (List (String × Item))}
    (husual : usualPlaces.mapM (readOptional files) = .ok usual)
    (hown : (userPlace? files surroundings).toList.mapM (readOptional files) = .ok own)
    (hasked : (some path).toList.mapM (readRequired files) = .ok asked)
    (hsettings : ofItem? ((usual ++ own ++ asked ++ [ofEnvironment surroundings.environment]).foldl
      Item.layOver (.table [])) = some settings) :
    load files surroundings (some path) = .ok settings := by
  unfold load
  rw [husual, ok_bind, hown, ok_bind, hasked, ok_bind]
  dsimp only
  rw [hsettings]

/-! ## Round trip -/

/-- Settings that were saved in a file are loaded from it, but that every name of a format has become
its lower-case form. They are the same settings only if all names are in lower case. -/
theorem load_saved (hformats : Entries.Ascending settings.formats)
    (hsave : settings.save files path = .ok written) (htoml : Files.extension? path = some "toml")
    {surroundings : Surroundings} (honly : OnlyFile written surroundings path)
    (henvironment : ∀ entry ∈ surroundings.environment, variablePath? entry.1 = none) :
    ∃ loaded, load written surroundings (some path) = .ok loaded ∧ ReadBack settings loaded ∧
      (loaded = settings ↔
        ∀ name ∈ Entries.keys settings.formats, Unicode.lowerText name = name) := by
  obtain ⟨text, htext, -⟩ := save_eq_ok_iff.1 hsave
  have htimeout : settings.readTimeout < Nat.pow 2 63 := (toList_write? htext).1
  have hoptional : ∀ other ∈ usualPlaces ++ (userPlace? written surroundings).toList,
      ∃ source, readOptional written other = .ok source ∧
        (source = [] ∨ source = settings.asEntries) :=
    fun _ => readOptional_saved hsave hformats honly
  obtain ⟨usual, husual, husualSources⟩ := mapM_ok (List.forall_mem_append.1 hoptional).1
  obtain ⟨own, hown, hownSources⟩ := mapM_ok (List.forall_mem_append.1 hoptional).2
  have hbelow : Layered settings ((usual ++ own).foldl Item.layOver (.table [])) :=
    Layered.nothing.foldl (List.forall_mem_append.2 ⟨husualSources, hownSources⟩)
  -- the file that is asked for lies over whatever was found before
  obtain ⟨lower, hlower, hlaid⟩ := hbelow.layOver_asEntries
  have hasked : (some path).toList.mapM (readRequired written) = .ok [settings.asEntries] := by
    show (readRequired written path >>= _) = _
    rw [readRequired_saved hsave hformats htoml]
    rfl
  have hsources : (usual ++ own ++ [settings.asEntries] ++
      [ofEnvironment surroundings.environment]).foldl Item.layOver (.table []) =
      .table (settings.withFormats lower).asEntries := by
    rw [ofEnvironment_eq_nil henvironment, List.foldl_append, List.foldl_append, List.foldl_cons,
      List.foldl_nil, List.foldl_cons, List.foldl_nil, hlaid]
    rfl
  refine ⟨settings.withFormats lower, ?_, ⟨rfl, rfl, rfl, hlower⟩, ?_⟩
  · refine load_of_sources husual hown hasked ?_
    rw [hsources]
    exact ofItem?_asEntries htimeout
  · rw [← hlower.eq_iff hformats]
    exact ⟨fun h => congrArg Settings.formats h, fun h => by rw [withFormats, h]⟩

/-- The directory at the root is empty but for one file. -/
def single (name text : String) : FileSystem := ⟨.directory [(name, .file text.toUTF8)], "/"⟩

theorem not_isFile_single {name text first : String} (hfirst : name ≠ first)
    (hparts : (Files.parts (Files.join "/" path)).take 2 = [.root, .name first]) :
    (single name text).isFile path = false := by
  rw [Bool.eq_false_iff]
  intro hfile
  obtain ⟨bytes, hlookup⟩ := Files.FileSystem.isFile_eq_true_iff.1 hfile
  obtain ⟨place, hplace, -, -⟩ := Files.FileSystem.lookup_eq_ok_iff.1 hlookup
  obtain ⟨-, hleads⟩ := Files.FileSystem.place_eq_ok_iff.1 hplace
  rw [show (single name text).current = "/" from rfl,
    ← List.take_append_drop 2 (Files.parts (Files.join "/" path)), hparts] at hleads
  -- the first name behind the root is missing
  have hmissing : ∀ below, (single name text).root.descend? ([] ++ [first]) ≠ some below := by
    intro below
    simp [single, Files.Tree.descend?, Files.Tree.entry?, Entries.get?, hfirst]
  cases hleads with
  | root hleads =>
    cases hleads with
    | root hleads =>
      cases hleads with
      | link hlink => exact hmissing _ hlink
      | name hbelow => exact hmissing _ hbelow

/-- A format whose name has capitals. -/
def courseCode : Settings := { formats := [("Course-Code", "^[A-Z]{3}$")] }

theorem save_courseCode : ∃ text,
    courseCode.save ⟨.directory [], "/"⟩ "app.toml" = .ok (single "app.toml" text) := by
  obtain ⟨text, htext⟩ : ∃ text, courseCode.write? = some text := ⟨_, rfl⟩
  have hparts : Files.parts (Files.join "/" "app.toml") = [.root, .name "app.toml"] := by
    decide +kernel
  have hplace : Files.FileSystem.newPlace (.directory []) Files.FileSystem.linkLimit []
      (.root :: Files.parts (Files.join "/" "app.toml")) = .ok ["app.toml"] := by
    rw [hparts]
    simp [Files.FileSystem.newPlace, Files.Tree.descend?, Entries.get?]
  refine ⟨text, save_eq_ok_iff.2 ⟨text, htext, ?_⟩⟩
  unfold Files.FileSystem.writeText
  rw [if_neg (by decide), hplace, ok_bind, if_neg (by decide)]
  rfl

/-- A format whose name has capitals is not loaded under its name. -/
theorem load_saved_of_capitals : ∃ written loaded,
    courseCode.save ⟨.directory [], "/"⟩ "app.toml" = .ok written ∧
      load written ⟨none, []⟩ (some "app.toml") = .ok loaded ∧ ReadBack courseCode loaded ∧
      Entries.get? loaded.formats "Course-Code" = none ∧ loaded ≠ courseCode := by
  obtain ⟨text, hsave⟩ := save_courseCode
  have honly : OnlyFile (single "app.toml" text) ⟨none, []⟩ "app.toml" := by
    intro other hother location hlocate
    obtain ⟨hfile, hpath⟩ := isFile_of_locate hlocate
    have hfirst : ∀ other ∈ usualPlaces ++ [], ∀ candidate ∈ other :: readers.map fun reader =>
        other ++ "." ++ reader.1, ∃ first ∈ [".schemas.toml", ".schemas.toml.json",
          ".schemas.toml.toml", "config", "schemas.toml", "schemas.toml.json", "schemas.toml.toml"],
          (Files.parts (Files.join "/" candidate)).take 2 = [.root, .name first] := by
      decide +kernel
    obtain ⟨first, hmem, hparts⟩ := hfirst other hother _ hpath
    have hne : "app.toml" ≠ first := by
      rintro rfl
      exact absurd hmem (by decide)
    rw [not_isFile_single hne hparts] at hfile
    cases hfile
  have hformats : Entries.Ascending courseCode.formats := List.pairwise_singleton _ _
  obtain ⟨loaded, hload, hback, hsame⟩ := load_saved hformats hsave
    (show Files.extension? "app.toml" = some "toml" by decide +kernel) honly (List.forall_mem_nil _)
  have hform : Unicode.lowerText "Course-Code" ≠ "Course-Code" := by decide +kernel
  refine ⟨_, loaded, hsave, hload, hback, ?_, fun heq => ?_⟩
  · cases hget : Entries.get? loaded.formats "Course-Code" with
    | none => rfl
    | some pattern =>
      obtain ⟨original, horiginal, hmem⟩ := hback.formats.comes hget
      cases List.mem_singleton.1 hmem
      exact absurd horiginal hform
  · exact hform (hsame.1 heq _ List.mem_cons_self)

end Schemata.Settings
