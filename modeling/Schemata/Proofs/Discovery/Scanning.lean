import Schemata.Discovery
import Schemata.Proofs.Files.Deletion

/-!
# Schema files below a root

The schema files of a component are found in order of their names. A file that is deleted is not
found any more, and every other one is found and loaded as before.

    scan = .ok paths → paths are those of names in ascending order            (scan_ascends)
    scan (files.delete gone) root is scan files root but for the paths to gone  (scan_delete)
    a path to another file loads the same                                      (load_delete)
-/

namespace Schemata.Discovery

open Files (FileSystem Tree IsName)

/-! ## Algorithm -/

def namesIn : Tree → List String
  | .directory inner => (inner.filter fun entry => isSchemaFile entry.1 && entry.2.isFile).map (·.1)
  | _ => []

def schemaNames (component : Tree) : List String :=
  ((component.entry? "schema").map namesIn).getD []

def schemaPath (root name : String) : String := Files.join (Files.join root "schema") name

/-! ## Names -/

variable {component : Tree} {name root path : String} {files : FileSystem} {place gone : List String}

theorem isName_of_isSchemaFile (h : isSchemaFile name = true) (hname : '/' ∉ name.toList) :
    IsName name := by
  refine ⟨hname, ?_, ?_, ?_⟩
  · rintro rfl
    exact absurd h (by decide)
  · rintro rfl
    exact absurd h (by decide)
  · rintro rfl
    exact absurd h (by decide)

theorem isName_schema : IsName "schema" := ⟨by decide, by decide, by decide, by decide⟩

/-- The schema files of a component are files in its directory of schemas. -/
theorem of_mem_schemaNames (h : component.Proper) (hname : name ∈ schemaNames component) :
    IsName name ∧ ∃ inner bytes, component.descend? ["schema"] = some (.directory inner) ∧
      Entries.get? inner name = some (.file bytes) := by
  unfold schemaNames at hname
  cases hentry : component.entry? "schema" with
  | none =>
    rw [hentry] at hname
    cases hname
  | some tree =>
    rw [hentry] at hname
    cases tree with
    | file bytes => cases hname
    | link target => cases hname
    | directory inner =>
      have hinner : component.descend? ["schema"] = some (.directory inner) :=
        Option.bind_eq_some_iff.2 ⟨_, hentry, rfl⟩
      obtain ⟨⟨key, below⟩, hbelow, rfl⟩ := List.mem_map.1 hname
      obtain ⟨hmem, hfile⟩ := List.mem_filter.1 hbelow
      rw [Bool.and_eq_true] at hfile
      cases h.descend? hinner with
      | directory hascends hnames _ =>
        refine ⟨isName_of_isSchemaFile hfile.1 (hnames _ hmem), inner, ?_⟩
        have hget := Entries.get?_of_mem hascends hmem
        cases below with
        | file bytes => exact ⟨bytes, hinner, hget⟩
        | directory entries => cases hfile.2
        | link target => cases hfile.2

theorem schemaNames_ascends (h : component.Proper) : (schemaNames component).Pairwise (· < ·) := by
  unfold schemaNames
  cases hentry : component.entry? "schema" with
  | none => exact List.Pairwise.nil
  | some tree =>
    have hat : component.descend? ["schema"] = some tree :=
      Option.bind_eq_some_iff.2 ⟨tree, hentry, rfl⟩
    cases h.descend? hat with
    | file bytes => exact List.Pairwise.nil
    | link target => exact List.Pairwise.nil
    | directory hascends _ _ => exact List.pairwise_map.2 (hascends.filter _)

theorem namesIn_without {tree : Tree} {rest : List String} {bytes : ByteArray}
    (hfile : tree.descend? rest = some (.file bytes)) :
    namesIn (tree.without rest) = (namesIn tree).filter fun name => [name] ≠ rest := by
  cases rest with
  | nil =>
    rw [List.filter_eq_self.2 (by simp)]
    rfl
  | cons key rest =>
    cases tree with
    | file bytes => rfl
    | link target => rfl
    | directory inner =>
      unfold Tree.without
      dsimp only
      split
      · next hrest =>
        subst hrest
        unfold namesIn
        dsimp only
        rw [Entries.without_eq_filter, List.filter_map, List.filter_filter, List.filter_filter]
        simp [Bool.and_comm]
      · next hrest =>
        rw [List.filter_eq_self.2 (by simp [Ne.symm hrest])]
        -- names stay, and so do the kinds of the entries
        have hname : ∀ entry : String × Tree,
            (if entry.1 = key then (entry.1, entry.2.without rest) else entry).1 = entry.1 := by
          intro entry
          split <;> rfl
        have hkind : ∀ entry : String × Tree,
            (if entry.1 = key then (entry.1, entry.2.without rest) else entry).2.isFile =
              entry.2.isFile := by
          intro entry
          split
          · exact (Files.Tree.alike_without entry.2 rest).isFile_eq
          · rfl
        unfold namesIn Entries.modify
        dsimp only
        rw [List.filter_map, List.map_map]
        simp only [Function.comp_def, hname, hkind]

/-- Without a file, the names of the others are the same. -/
theorem schemaNames_without {rest : List String} {bytes : ByteArray}
    (hfile : component.descend? rest = some (.file bytes)) :
    schemaNames (component.without rest) =
      (schemaNames component).filter fun name => ["schema", name] ≠ rest := by
  unfold schemaNames
  cases rest with
  | nil =>
    rw [List.filter_eq_self.2 (by simp)]
    rfl
  | cons first rest =>
    obtain ⟨tree, hentry, htree⟩ := Option.bind_eq_some_iff.1 hfile
    by_cases hfirst : first = "schema"
    · subst hfirst
      rw [hentry]
      by_cases hrest : rest = []
      · subst hrest
        cases htree
        rw [Tree.entry?_without_self, if_pos rfl]
        rfl
      · rw [Tree.entry?_without_below _ _ _ hrest, if_pos rfl, hentry]
        show namesIn (tree.without rest) = (namesIn tree).filter _
        rw [namesIn_without htree]
        simp
    · have hentry' : Tree.entry? (component.without (first :: rest)) "schema" =
          component.entry? "schema" := by
        by_cases hrest : rest = []
        · rw [hrest, Tree.entry?_without_self, if_neg (Ne.symm hfirst)]
        · rw [Tree.entry?_without_below _ _ _ hrest, if_neg (Ne.symm hfirst)]
      rw [hentry', List.filter_eq_self.2 (by simp [Ne.symm hfirst])]

/-! ## Scanning -/

theorem scan_directory {entries : List (String × Tree)}
    (h : files.lookup root = .ok (.directory entries)) :
    scan files root = .ok ((schemaNames (.directory entries)).map (schemaPath root)) := by
  unfold scan schemaNames Tree.entry?
  rw [h]
  dsimp only
  cases Entries.get? entries "schema" with
  | none => rfl
  | some tree =>
    cases tree with
    | file bytes => rfl
    | link target => rfl
    | directory inner =>
      dsimp only [namesIn, Option.map_some, Option.getD_some]
      rw [List.map_map]
      rfl

theorem scan_no_directory (h : ∀ entries, files.lookup root ≠ .ok (.directory entries)) :
    scan files root = .error (.notFound "component root" root) := by
  unfold scan
  split
  · next entries hlookup => exact absurd hlookup (h entries)
  · rfl

/-- What is found below a root are the schema files of the directory that the root leads to. -/
theorem scan_eq_ok_iff {paths : List String} : scan files root = .ok paths ↔
    ∃ place entries, files.place root = .ok place ∧
      files.root.descend? place = some (.directory entries) ∧
      paths = (schemaNames (.directory entries)).map (schemaPath root) := by
  constructor
  · intro h
    by_cases hdirectory : ∃ entries, files.lookup root = .ok (.directory entries)
    · obtain ⟨entries, hlookup⟩ := hdirectory
      rw [scan_directory hlookup] at h
      obtain ⟨place, hplace, hentries, -⟩ := Files.FileSystem.lookup_eq_ok_iff.1 hlookup
      exact ⟨place, entries, hplace, hentries, (Except.ok.inj h).symm⟩
    · rw [scan_no_directory (not_exists.1 hdirectory)] at h
      cases h
  · rintro ⟨place, entries, hplace, hentries, rfl⟩
    exact scan_directory (Files.FileSystem.lookup_eq_ok_iff.2
      ⟨place, hplace, hentries, fun hfile => absurd hfile Bool.false_ne_true⟩)

theorem scan_eq_error {reason : Failure} (h : scan files root = .error reason) :
    reason = .notFound "component root" root := by
  by_cases hdirectory : ∃ entries, files.lookup root = .ok (.directory entries)
  · obtain ⟨entries, hlookup⟩ := hdirectory
    rw [scan_directory hlookup] at h
    cases h
  · rw [scan_no_directory (not_exists.1 hdirectory)] at h
    exact (Except.error.inj h).symm

/-- The schema files below a root are those of names in ascending order. -/
theorem scan_ascends (h : files.root.Proper) {paths : List String} (hscan : scan files root = .ok paths) :
    ∃ names : List String, names.Pairwise (· < ·) ∧ paths = names.map (schemaPath root) := by
  obtain ⟨place, entries, -, hentries, rfl⟩ := scan_eq_ok_iff.1 hscan
  exact ⟨_, schemaNames_ascends (h.descend? hentries), rfl⟩

/-- A path that is found below a root leads to a file. -/
theorem place_schemaPath (h : files.root.Proper) {entries : List (String × Tree)}
    (hplace : files.place root = .ok place)
    (hentries : files.root.descend? place = some (.directory entries))
    (hname : name ∈ schemaNames (.directory entries)) :
    files.place (schemaPath root name) = .ok (place ++ ["schema", name]) ∧
      ∃ bytes, files.root.descend? (place ++ ["schema", name]) = some (.file bytes) := by
  obtain ⟨hisName, inner, bytes, hinner, hfile⟩ := of_mem_schemaNames (h.descend? hentries) hname
  have hschema : files.root.descend? (place ++ ["schema"]) = some (.directory inner) := by
    rw [Tree.descend?_append, hentries]
    exact hinner
  have hbelow : files.root.descend? (place ++ ["schema"] ++ [name]) = some (.file bytes) :=
    Tree.descend?_concat.2 ⟨inner, hschema, hfile⟩
  have hdirectory := Files.FileSystem.place_join hplace isName_schema hschema fun _ => Tree.noConfusion
  have hleads := Files.FileSystem.place_join hdirectory hisName hbelow fun _ => Tree.noConfusion
  rw [List.append_assoc, List.singleton_append] at hleads hbelow
  exact ⟨hleads, bytes, hbelow⟩

/-! ## Deleted files -/

/-- What leads to a directory without a file does so with it. -/
theorem directory_of_delete {bytes : ByteArray} {entries : List (String × Tree)}
    (hfile : files.root.descend? gone = some (.file bytes)) (hgone : gone ≠ [])
    (hplace : (files.delete gone).place root = .ok place)
    (hentries : (files.delete gone).root.descend? place = some (.directory entries)) :
    files.place root = .ok place ∧ ∃ others, files.root.descend? place = some (.directory others) := by
  obtain ⟨hplace, -⟩ := (Files.FileSystem.place_delete hfile hgone).1 hplace
  rw [Files.FileSystem.delete_of_file hfile] at hentries
  obtain ⟨-, below, hbelow, halike⟩ := Tree.exists_alike_of_without hfile hgone hentries
  obtain ⟨others, rfl⟩ := halike.symm.directory
  exact ⟨hplace, others, hbelow⟩

/-- Without a file, the directory that a root leads to has all schema files but that one. -/
theorem schemaNames_delete {bytes : ByteArray} {entries : List (String × Tree)}
    (hfile : files.root.descend? gone = some (.file bytes))
    (hentries : files.root.descend? place = some (.directory entries)) :
    ∃ others, (files.delete gone).root.descend? place = some (.directory others) ∧
      schemaNames (.directory others) =
        (schemaNames (.directory entries)).filter fun name => place ++ ["schema", name] ≠ gone := by
  have hne : place ≠ gone := by
    rintro rfl
    rw [hfile] at hentries
    cases hentries
  rw [Files.FileSystem.delete_of_file hfile]
  by_cases hon : place <+: gone
  · obtain ⟨rest, rfl⟩ := hon
    have hrest : rest ≠ [] := by
      rintro rfl
      exact hne (List.append_nil place).symm
    have hbelow : (Tree.directory entries).descend? rest = some (.file bytes) := by
      rw [Tree.descend?_append, hentries] at hfile
      exact hfile
    have hwithout : (files.root.without (place ++ rest)).descend? place =
        some ((Tree.directory entries).without rest) := by
      rw [Tree.descend?_without_above _ _ hrest, hentries]
      rfl
    have hnames := schemaNames_without hbelow
    obtain ⟨others, hothers⟩ := (Tree.alike_without (.directory entries) rest).directory
    rw [hothers] at hwithout hnames
    refine ⟨others, hwithout, ?_⟩
    rw [hnames]
    exact List.filter_congr fun name _ => by simp
  · refine ⟨entries, ?_, ?_⟩
    · rw [← hentries]
      exact Tree.descend?_without_apart hfile hon
    · refine (List.filter_eq_self.2 fun name _ => ?_).symm
      rw [decide_eq_true_eq]
      rintro rfl
      exact hon (List.prefix_append place _)

/-- Without a file, all paths are found but those that lead to it. -/
theorem scan_delete (h : files.root.Proper) (gone : List String) (root : String) :
    scan (files.delete gone) root =
      (scan files root).map (·.filter fun path => (files.place path).toOption ≠ some gone) := by
  rcases Files.FileSystem.delete_cases files gone with ⟨hgone, bytes, hfile⟩ | ⟨hno, hsame⟩
  · cases hscan : scan files root with
    | error reason =>
      cases hscan' : scan (files.delete gone) root with
      | error reason' =>
        rw [scan_eq_error hscan, scan_eq_error hscan']
        rfl
      | ok paths =>
        obtain ⟨place, entries, hplace, hentries, -⟩ := scan_eq_ok_iff.1 hscan'
        obtain ⟨hplace, others, hothers⟩ := directory_of_delete hfile hgone hplace hentries
        rw [scan_eq_ok_iff.2 ⟨place, others, hplace, hothers, rfl⟩] at hscan
        cases hscan
    | ok paths =>
      obtain ⟨place, entries, hplace, hentries, rfl⟩ := scan_eq_ok_iff.1 hscan
      obtain ⟨others, hothers, hnames⟩ := schemaNames_delete hfile hentries
      have hne : place ≠ gone := by
        rintro rfl
        rw [hfile] at hentries
        cases hentries
      refine scan_eq_ok_iff.2 ⟨place, others,
        (Files.FileSystem.place_delete hfile hgone).2 ⟨hplace, hne⟩, hothers, ?_⟩
      rw [hnames]
      dsimp only
      rw [List.filter_map]
      refine congrArg _ (List.filter_congr fun name hname => ?_)
      show decide ((files.place (schemaPath root name)).toOption ≠ some gone) = _
      rw [(place_schemaPath h hplace hentries hname).1]
      simp [Except.toOption]
  · rw [hsame]
    cases hscan : scan files root with
    | error reason => rfl
    | ok paths =>
      obtain ⟨place, entries, hplace, hentries, rfl⟩ := scan_eq_ok_iff.1 hscan
      refine congrArg Except.ok (List.filter_eq_self.2 fun path hpath => ?_).symm
      obtain ⟨name, hname, rfl⟩ := List.mem_map.1 hpath
      obtain ⟨hleads, bytes, hfile⟩ := place_schemaPath h hplace hentries hname
      rw [hleads, decide_eq_true_eq]
      intro heq
      cases heq
      exact hno (by simp) bytes hfile

/-- Without a file, another one loads the same. -/
theorem load_delete {bytes : ByteArray} (hplace : files.place path = .ok place)
    (hfile : files.root.descend? place = some (.file bytes)) (hgone : place ≠ gone) :
    load (files.delete gone) path = load files path := by
  unfold load Files.FileSystem.readText
  rw [Files.FileSystem.lookup_delete hplace hfile hgone]

end Schemata.Discovery
