import Schemata.Proofs.Files.Places

/-!
# Deleting files

A file that is deleted is missing at its place, and nothing else changes: every other path leads
where it led.

    a directory on the way to the place has one entry less, below          (descend?_without_above)
    what is not on the way is as it was                                     (descend?_without_apart)
    (files.delete gone).place path = .ok place ↔
      files.place path = .ok place ∧ place ≠ gone                          (place_delete)
-/

namespace Schemata.Files

/-! ## Algorithm -/

def Tree.without (tree : Tree) : List String → Tree
  | [] => tree
  | name :: names =>
    match tree with
    | .directory entries =>
      if names = [] then .directory (Entries.without entries name)
      else .directory (Entries.modify entries name fun below => below.without names)
    | other => other

def FileSystem.delete (files : FileSystem) (place : List String) : FileSystem :=
  if (files.root.descend? place).any Tree.isFile then
    { files with root := files.root.without place }
  else files

/-- The same, or directories both. -/
inductive Tree.Alike : Tree → Tree → Prop
  | same (tree : Tree) : Alike tree tree
  | directories (entries others : List (String × Tree)) :
      Alike (.directory entries) (.directory others)

/-- Parts that lead to the root stand in front of all others. -/
def Rooted (parts : List Part) : Prop :=
  parts.Pairwise fun before part => part = .root → before = .root

/-! ## Trees -/

namespace Tree

variable {tree : Tree} {name : String} {names rest : List String}

theorem entry?_without_self (tree : Tree) (name other : String) :
    entry? (tree.without [name]) other = if other = name then none else tree.entry? other := by
  cases tree with
  | directory entries => exact Entries.get?_without entries name other
  | file bytes => exact (ite_self none).symm
  | link target => exact (ite_self none).symm

theorem entry?_without_below (tree : Tree) (name other : String) (hrest : rest ≠ []) :
    entry? (tree.without (name :: rest)) other =
      if other = name then (tree.entry? other).map fun below => below.without rest
      else tree.entry? other := by
  cases tree with
  | directory entries =>
    rw [without, if_neg hrest]
    exact Entries.get?_modify entries name other _
  | file bytes => exact (ite_self none).symm
  | link target => exact (ite_self none).symm

/-- A directory on the way to what is missing lacks it. -/
theorem descend?_without_above (tree : Tree) (names : List String) (hrest : rest ≠ []) :
    (tree.without (names ++ rest)).descend? names =
      (tree.descend? names).map fun below => below.without rest := by
  induction names generalizing tree with
  | nil => rfl
  | cons name names ih =>
    have hbelow : names ++ rest ≠ [] := by simp [hrest]
    rw [List.cons_append, descend?, descend?, entry?_without_below _ _ _ hbelow, if_pos rfl,
      Option.bind_map, Option.map_bind]
    exact congrArg _ (funext ih)

/-- What is not on the way to a missing file is as it was. -/
theorem descend?_without_apart {place : List String} {bytes : ByteArray}
    (hfile : tree.descend? place = some (.file bytes)) (hnames : ¬ names <+: place) :
    (tree.without place).descend? names = tree.descend? names := by
  induction names generalizing tree place with
  | nil => exact absurd (List.nil_prefix) hnames
  | cons name names ih =>
    cases place with
    | nil => rfl
    | cons first rest =>
      rw [List.cons_prefix_cons] at hnames
      rw [descend?, descend?]
      by_cases hname : name = first
      · subst hname
        have hfurther : ¬ names <+: rest := fun h => hnames ⟨rfl, h⟩
        obtain ⟨inner, hentry, hinner⟩ := Option.bind_eq_some_iff.1 hfile
        cases rest with
        | nil =>
          -- the file itself is on the way, and nothing is below it
          cases hinner
          rw [entry?_without_self, if_pos rfl, hentry]
          cases names with
          | nil => exact absurd List.nil_prefix hfurther
          | cons next names => rfl
        | cons next rest =>
          rw [entry?_without_below _ _ _ (List.cons_ne_nil _ _), if_pos rfl, hentry]
          exact ih hinner hfurther
      · cases rest with
        | nil => rw [entry?_without_self, if_neg hname]
        | cons next rest => rw [entry?_without_below _ _ _ (List.cons_ne_nil _ _), if_neg hname]

/-- A missing file is missing. -/
theorem descend?_without_self (tree : Tree) {place : List String} (hplace : place ≠ []) :
    (tree.without place).descend? place = none := by
  obtain ⟨names, name, rfl⟩ : ∃ names name, place = names ++ [name] :=
    ⟨_, _, (List.dropLast_concat_getLast hplace).symm⟩
  rw [descend?_append, descend?_without_above _ _ (List.cons_ne_nil _ _), Option.bind_map]
  refine Option.bind_eq_none_iff.2 fun below _ => ?_
  show Option.bind ( entry? (below.without [name]) name) _ = none
  rw [entry?_without_self, if_pos rfl]
  rfl

theorem Alike.symm {other : Tree} (h : tree.Alike other) : other.Alike tree := by
  cases h with
  | same => exact .same _
  | directories entries others => exact .directories others entries

theorem Alike.directory {entries : List (String × Tree)} {other : Tree}
    (h : (Tree.directory entries).Alike other) : ∃ others, other = .directory others := by
  cases h with
  | same => exact ⟨entries, rfl⟩
  | directories entries others => exact ⟨others, rfl⟩

theorem Alike.isFile_eq {other : Tree} (h : tree.Alike other) : other.isFile = tree.isFile := by
  cases h <;> rfl

theorem alike_without (tree : Tree) (names : List String) : tree.Alike (tree.without names) := by
  cases tree with
  | file bytes => cases names <;> exact .same _
  | link target => cases names <;> exact .same _
  | directory entries =>
    cases names with
    | nil => exact .same _
    | cons name names =>
      unfold without
      dsimp only
      split <;> exact .directories _ _

/-- What stands somewhere else stays there, if with fewer entries. -/
theorem descend?_without_of_ne {place : List String} {bytes : ByteArray}
    (hfile : tree.descend? place = some (.file bytes)) (hnames : names ≠ place) :
    ∃ rest, (tree.without place).descend? names =
      (tree.descend? names).map fun below => below.without rest := by
  by_cases hon : names <+: place
  · obtain ⟨rest, rfl⟩ := hon
    refine ⟨rest, descend?_without_above tree names ?_⟩
    rintro rfl
    exact hnames (List.append_nil names).symm
  · refine ⟨[], ?_⟩
    rw [descend?_without_apart hfile hon]
    exact Option.map_id'.symm

theorem exists_alike_of_ne {place : List String} {bytes : ByteArray} {below : Tree}
    (hfile : tree.descend? place = some (.file bytes)) (hnames : names ≠ place)
    (h : tree.descend? names = some below) :
    ∃ other, (tree.without place).descend? names = some other ∧ below.Alike other := by
  obtain ⟨rest, hrest⟩ := descend?_without_of_ne hfile hnames
  rw [h] at hrest
  exact ⟨_, hrest, alike_without below rest⟩

theorem exists_alike_of_without {place : List String} {bytes : ByteArray} {other : Tree}
    (hfile : tree.descend? place = some (.file bytes)) (hplace : place ≠ [])
    (h : (tree.without place).descend? names = some other) :
    names ≠ place ∧ ∃ below, tree.descend? names = some below ∧ below.Alike other := by
  have hnames : names ≠ place := by
    rintro rfl
    rw [descend?_without_self tree hplace] at h
    cases h
  obtain ⟨rest, hrest⟩ := descend?_without_of_ne hfile hnames
  rw [hrest] at h
  obtain ⟨below, hbelow, rfl⟩ := Option.map_eq_some_iff.1 h
  exact ⟨hnames, below, hbelow, alike_without below rest⟩

/-- There is nothing below a file. -/
theorem dropLast_ne_of_file {place : List String} {bytes : ByteArray} {below : Tree}
    (hfile : tree.descend? place = some (.file bytes)) (hplace : place ≠ [])
    (h : tree.descend? names = some below) : names.dropLast ≠ place := by
  rintro rfl
  have hnames : names ≠ [] := by
    rintro rfl
    exact hplace rfl
  rw [← List.dropLast_concat_getLast hnames] at h
  obtain ⟨entries, hdirectory, -⟩ := descend?_concat.1 h
  rw [hfile] at hdirectory
  cases hdirectory

theorem Proper.without (h : tree.Proper) (names : List String) : (tree.without names).Proper := by
  induction names generalizing tree with
  | nil => exact h
  | cons name names ih =>
    cases h with
    | file bytes => exact .file bytes
    | link target => exact .link target
    | @directory entries hascends hnames hinner =>
      unfold Tree.without
      dsimp only
      split
      · refine .directory (hascends.without name) (fun entry hentry => ?_) fun entry hentry => ?_
        · exact hnames entry (Entries.mem_without.1 hentry).1
        · exact hinner entry (Entries.mem_without.1 hentry).1
      · refine .directory (hascends.modify name _) (fun entry hentry => ?_) fun entry hentry => ?_
        · obtain ⟨old, hold, rfl⟩ := List.mem_map.1 hentry
          split <;> exact hnames old hold
        · obtain ⟨old, hold, rfl⟩ := List.mem_map.1 hentry
          split
          · exact ih (hinner old hold)
          · exact hinner old hold

end Tree

/-! ## Walks -/

theorem Rooted.of_cons {part : Part} {parts : List Part} (h : Rooted (part :: parts)) :
    Rooted parts := (List.pairwise_cons.1 h).2

theorem Rooted.root_not_mem {name : String} {rest : List Part} (h : Rooted (.name name :: rest)) :
    Part.root ∉ rest := by
  intro hroot
  cases (List.pairwise_cons.1 h).1 _ hroot rfl

theorem Rooted.of_root_not_mem {parts : List Part} (h : Part.root ∉ parts) : Rooted parts := by
  induction parts with
  | nil => exact List.Pairwise.nil
  | cons part parts ih =>
    rw [List.mem_cons, not_or] at h
    refine List.pairwise_cons.2 ⟨fun other hother hroot => ?_, ih h.2⟩
    rw [hroot] at hother
    exact absurd hother h.2

theorem Rooted.cons_root {parts : List Part} (h : Rooted parts) : Rooted (.root :: parts) :=
  List.pairwise_cons.2 ⟨fun _ _ _ => rfl, h⟩

/-- The parts of a path are rooted, also with others behind them that do not lead to the root. -/
theorem rooted_parts_append (path : String) {rest : List Part} (hrest : Part.root ∉ rest) :
    Rooted (parts path ++ rest) := by
  unfold parts
  dsimp only
  generalize hnames : (Text.splitAll '/' path).filterMap _ = names
  have hroot : Part.root ∉ names ++ rest := by
    rw [List.mem_append, ← hnames, List.mem_filterMap]
    rintro (⟨word, -, hword⟩ | hmem)
    · split at hword
      · cases hword
      · split at hword <;> cases hword
    · exact hrest hmem
  rw [List.append_assoc]
  split
  · exact (Rooted.of_root_not_mem hroot).cons_root
  · split
    · exact Rooted.of_root_not_mem (List.not_mem_cons_of_ne_of_not_mem Part.noConfusion hroot)
    · exact Rooted.of_root_not_mem hroot

namespace FileSystem

variable {root : Tree} {links : Nat} {here place gone : List String} {parts : List Part}
  {bytes : ByteArray}

/-- What leads somewhere without a file does so with it. -/
theorem Leads.of_without (hfile : root.descend? gone = some (.file bytes)) (hgone : gone ≠ [])
    (h : Leads (root.without gone) links here parts place) (hhere : here ≠ gone) :
    Leads root links here parts place ∧ place ≠ gone := by
  induction h with
  | done => exact ⟨.done, hhere⟩
  | root _ ih =>
    obtain ⟨hleads, hplace⟩ := ih (Ne.symm hgone)
    exact ⟨.root hleads, hplace⟩
  | @parent links here place rest entries hdirectory _ ih =>
    obtain ⟨-, below, hbelow, halike⟩ := Tree.exists_alike_of_without hfile hgone hdirectory
    obtain ⟨hleads, hplace⟩ := ih (Tree.dropLast_ne_of_file hfile hgone hbelow)
    obtain ⟨others, rfl⟩ := halike.symm.directory
    exact ⟨.parent hbelow hleads, hplace⟩
  | current hdirectory _ ih =>
    obtain ⟨-, below, hbelow, halike⟩ := Tree.exists_alike_of_without hfile hgone hdirectory
    obtain ⟨hleads, hplace⟩ := ih hhere
    obtain ⟨others, rfl⟩ := halike.symm.directory
    exact ⟨.current hbelow hleads, hplace⟩
  | link hlink _ ih =>
    obtain ⟨-, below, hbelow, halike⟩ := Tree.exists_alike_of_without hfile hgone hlink
    obtain ⟨hleads, hplace⟩ := ih hhere
    cases halike with
    | same => exact ⟨.link hbelow hleads, hplace⟩
  | name hentry hplain _ ih =>
    obtain ⟨hnext, below, hbelow, halike⟩ := Tree.exists_alike_of_without hfile hgone hentry
    obtain ⟨hleads, hplace⟩ := ih hnext
    refine ⟨.name hbelow (fun target hlink => ?_) hleads, hplace⟩
    subst hlink
    cases halike
    exact hplain target rfl

/-- From a file there is no way on but from the root. -/
theorem Leads.eq_of_file (hfile : root.descend? here = some (.file bytes))
    (h : Leads root links here parts place) (hparts : Part.root ∉ parts) : place = here := by
  cases h with
  | done => rfl
  | root => exact absurd List.mem_cons_self hparts
  | parent hdirectory =>
    rw [hfile] at hdirectory
    cases hdirectory
  | current hdirectory =>
    rw [hfile] at hdirectory
    cases hdirectory
  | link hlink =>
    obtain ⟨entries, hdirectory, -⟩ := Tree.descend?_concat.1 hlink
    rw [hfile] at hdirectory
    cases hdirectory
  | name hbelow =>
    obtain ⟨entries, hdirectory, -⟩ := Tree.descend?_concat.1 hbelow
    rw [hfile] at hdirectory
    cases hdirectory

/-- What leads elsewhere still does so when a file is missing. -/
theorem Leads.without (hfile : root.descend? gone = some (.file bytes)) (hgone : gone ≠ [])
    (h : Leads root links here parts place) (hrooted : Rooted parts) (hhere : here ≠ gone)
    (hplace : place ≠ gone) : Leads (root.without gone) links here parts place := by
  induction h with
  | done => exact .done
  | root _ ih => exact .root (ih hrooted.of_cons (Ne.symm hgone) hplace)
  | parent hdirectory _ ih =>
    have hup := Tree.dropLast_ne_of_file hfile hgone hdirectory
    obtain ⟨other, hother, halike⟩ := Tree.exists_alike_of_ne hfile hhere hdirectory
    obtain ⟨others, rfl⟩ := halike.directory
    exact .parent hother (ih hrooted.of_cons hup hplace)
  | current hdirectory _ ih =>
    obtain ⟨other, hother, halike⟩ := Tree.exists_alike_of_ne hfile hhere hdirectory
    obtain ⟨others, rfl⟩ := halike.directory
    exact .current hother (ih hrooted.of_cons hhere hplace)
  | @link links here place name target rest hlink _ ih =>
    have hnext : here ++ [name] ≠ gone := by
      rintro rfl
      rw [hfile] at hlink
      cases hlink
    obtain ⟨other, hother, halike⟩ := Tree.exists_alike_of_ne hfile hnext hlink
    cases halike with
    | same => exact .link hother (ih (rooted_parts_append target hrooted.root_not_mem) hhere hplace)
  | @name links here place name below rest hbelow hplain hrest ih =>
    by_cases hnext : here ++ [name] = gone
    · rw [hnext] at hrest
      exact absurd (hrest.eq_of_file hfile hrooted.root_not_mem) hplace
    · obtain ⟨other, hother, halike⟩ := Tree.exists_alike_of_ne hfile hnext hbelow
      refine .name hother (fun target hlink => ?_) (ih hrooted.of_cons hnext hplace)
      subst hlink
      cases halike
      exact hplain target rfl

/-! ## Files -/

variable {files : FileSystem} {path : String}

theorem delete_of_file (hfile : files.root.descend? gone = some (.file bytes)) :
    files.delete gone = { files with root := files.root.without gone } := by
  unfold delete
  rw [hfile]
  rfl

/-- A file is deleted, or nothing. -/
theorem delete_cases (files : FileSystem) (gone : List String) :
    (gone ≠ [] ∧ ∃ bytes, files.root.descend? gone = some (.file bytes)) ∨
      ((gone ≠ [] → ∀ bytes, files.root.descend? gone ≠ some (.file bytes)) ∧
        files.delete gone = files) := by
  by_cases hgone : gone = []
  · subst hgone
    exact Or.inr ⟨fun h => absurd rfl h, ite_self files⟩
  · by_cases hfile : ∃ bytes, files.root.descend? gone = some (.file bytes)
    · exact Or.inl ⟨hgone, hfile⟩
    · refine Or.inr ⟨fun _ => not_exists.1 hfile, if_neg fun hany => ?_⟩
      obtain ⟨tree, htree, hisFile⟩ := (Option.any_eq_true _ _).1 hany
      cases tree with
      | file bytes => exact hfile ⟨bytes, htree⟩
      | directory entries => cases hisFile
      | link target => cases hisFile

theorem proper_delete (h : files.root.Proper) (gone : List String) :
    (files.delete gone).root.Proper := by
  unfold delete
  split
  · exact h.without gone
  · exact h

/-- Without a file, every path leads where it led, but not to the file. -/
theorem place_delete (hfile : files.root.descend? gone = some (.file bytes)) (hgone : gone ≠ []) :
    (files.delete gone).place path = .ok place ↔ files.place path = .ok place ∧ place ≠ gone := by
  rw [place_eq_ok_iff, place_eq_ok_iff, delete_of_file hfile, and_assoc]
  refine and_congr_right fun _ => ⟨fun h => h.of_without hfile hgone (Ne.symm hgone), ?_⟩
  rintro ⟨hleads, hplace⟩
  have hrooted : Rooted (.root :: Files.parts (Files.join files.current path)) := by
    rw [← List.append_nil (Files.parts _)]
    exact (rooted_parts_append _ List.not_mem_nil).cons_root
  exact hleads.without hfile hgone hrooted (Ne.symm hgone) hplace

theorem place_delete_of_ne (hplace : files.place path = .ok place) (hne : place ≠ gone) :
    (files.delete gone).place path = .ok place := by
  rcases delete_cases files gone with ⟨hgone, bytes, hfile⟩ | ⟨-, hsame⟩
  · exact (place_delete hfile hgone).2 ⟨hplace, hne⟩
  · rwa [hsame]

/-- Another file is the same without one. -/
theorem lookup_delete {other : List String} {text : ByteArray}
    (hplace : files.place path = .ok other) (htext : files.root.descend? other = some (.file text))
    (hother : other ≠ gone) : (files.delete gone).lookup path = files.lookup path := by
  rcases delete_cases files gone with ⟨-, bytes, hfile⟩ | ⟨-, hsame⟩
  · have hkept : (files.delete gone).root.descend? other = some (.file text) := by
      rw [delete_of_file hfile]
      obtain ⟨tree, htree, halike⟩ := Tree.exists_alike_of_ne hfile hother htext
      cases halike
      exact htree
    unfold lookup
    rw [place_delete_of_ne hplace hother, hplace, ok_bind, ok_bind, hkept, htext]
  · rw [hsame]

end FileSystem

end Schemata.Files
