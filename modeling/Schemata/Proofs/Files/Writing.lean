import Schemata.Proofs.Files.Deletion

/-!
# Writing files

A text that was written is read back from every path that leads to its place, and the path that it
was written to is one of them, also if that path goes through links or the file was not there before.

    a place where a file can be put is open                                (open_of_newPlace)
    what stands elsewhere is as it was, directories with one entry more   (exists_alike_of_insert)
    newPlace root links here parts = .ok place →
      Leads (root.insert (.file bytes) place) links here parts place       (leads_of_newPlace)
    files.writeText path text = .ok written → written.readText path = .ok text
                                                                         (readText_of_writeText)
-/

namespace Schemata.Files

/-! ## Trees -/

/-- A place where a file can be put: there is no directory, but a directory that it is in. -/
inductive Tree.Open : Tree → List String → Prop
  | here {tree : Tree} (hplain : tree.isDirectory = false) : Open tree []
  | fresh {entries : List (String × Tree)} {name : String}
      (hmissing : Entries.get? entries name = none) : Open (.directory entries) [name]
  | inside {entries : List (String × Tree)} {name : String} {inner : Tree} {names : List String}
      (hentry : Entries.get? entries name = some inner) (hinner : Open inner names) :
      Open (.directory entries) (name :: names)

namespace Tree

variable {tree below inner : Tree} {names place : List String}

theorem descend?_insert_self (tree below : Tree) (place : List String) :
    (tree.insert below place).descend? place = some below := by
  induction place generalizing tree with
  | nil => rfl
  | cons name rest ih =>
    refine Option.bind_eq_some_iff.2 ⟨_, Entries.get?_put_self _ _ _, ?_⟩
    exact ih _

theorem Open.of_descend? (h : tree.descend? place = some below) (hplain : below.isDirectory = false) :
    tree.Open place := by
  induction place generalizing tree with
  | nil =>
    cases h
    exact .here hplain
  | cons name rest ih =>
    obtain ⟨entries, inner, rfl, hentry, hinner⟩ := descend?_cons.1 h
    exact .inside hentry (ih hinner)

theorem Open.of_fresh {entries : List (String × Tree)} {name : String}
    (h : tree.descend? names = some (.directory entries))
    (hmissing : Entries.get? entries name = none) :
    tree.Open (names ++ [name]) := by
  induction names generalizing tree with
  | nil =>
    cases h
    exact .fresh hmissing
  | cons first rest ih =>
    obtain ⟨entries, inner, rfl, hentry, hinner⟩ := descend?_cons.1 h
    exact .inside hentry (ih hinner)

theorem Open.not_directory (h : tree.Open place) (entries : List (String × Tree)) :
    tree.descend? place ≠ some (.directory entries) := by
  induction h with
  | here hplain =>
    intro hdirectory
    cases hdirectory
    cases hplain
  | fresh hmissing =>
    intro hdirectory
    obtain ⟨inner, hentry, -⟩ := Option.bind_eq_some_iff.1 hdirectory
    rw [ entry?, hmissing] at hentry
    cases hentry
  | inside hentry _ ih =>
    intro hdirectory
    obtain ⟨inner, hinner, hrest⟩ := Option.bind_eq_some_iff.1 hdirectory
    rw [ entry?, hentry] at hinner
    cases hinner
    exact ih hrest

/-- What stands elsewhere stays there when a file is put into an open place, if with one entry
more. -/
theorem exists_alike_of_insert (hopen : tree.Open place) (file : Tree) (hnames : names ≠ place)
    (h : tree.descend? names = some inner) :
    ∃ other, (tree.insert file place).descend? names = some other ∧ inner.Alike other := by
  induction hopen generalizing names with
  | @here tree hplain =>
    -- there is nothing below what is no directory
    cases names with
    | nil => exact absurd rfl hnames
    | cons name names =>
      obtain ⟨entries, inner, rfl, -, -⟩ := descend?_cons.1 h
      cases hplain
  | @fresh entries name hmissing =>
    cases names with
    | nil =>
      cases h
      exact ⟨_, rfl, .directories _ _⟩
    | cons first names =>
      obtain ⟨below, hentry, hbelow⟩ := Option.bind_eq_some_iff.1 h
      have hfirst : name ≠ first := by
        rintro rfl
        rw [ entry?, hmissing] at hentry
        cases hentry
      refine ⟨inner, Option.bind_eq_some_iff.2 ⟨below, ?_, hbelow⟩, .same inner⟩
      exact (Entries.get?_put_of_ne entries _ hfirst).trans hentry
  | @inside entries name next rest hentry _ ih =>
    cases names with
    | nil =>
      cases h
      exact ⟨_, rfl, .directories _ _⟩
    | cons first names =>
      obtain ⟨below, hfound, hbelow⟩ := Option.bind_eq_some_iff.1 h
      by_cases hfirst : name = first
      · subst hfirst
        rw [ entry?, hentry] at hfound
        cases hfound
        have hrest : names ≠ rest := fun heq => hnames (congrArg _ heq)
        obtain ⟨other, hother, halike⟩ := ih hrest hbelow
        refine ⟨other, Option.bind_eq_some_iff.2 ⟨next.insert file rest, ?_, hother⟩, halike⟩
        refine (Entries.get?_put_self entries name _).trans ?_
        rw [hentry, Option.getD_some]
      · refine ⟨inner, Option.bind_eq_some_iff.2 ⟨below, ?_, hbelow⟩, .same inner⟩
        exact (Entries.get?_put_of_ne entries _ hfirst).trans hfound

end Tree

namespace FileSystem

variable {root : Tree} {links : Nat} {here place : List String} {parts : List Part}

/-! ## New places -/

/-- A place on the way of a path: the root, or something that is no link. -/
def OnWay (root : Tree) (here : List String) : Prop :=
  here = [] ∨ ∃ tree, root.descend? here = some tree ∧ ∀ target, tree ≠ .link target

theorem OnWay.dropLast {entries : List (String × Tree)}
    (h : root.descend? here = some (.directory entries)) : OnWay root here.dropLast := by
  by_cases hhere : here = []
  · rw [hhere]
    exact Or.inl rfl
  · rw [← List.dropLast_concat_getLast hhere] at h
    obtain ⟨others, hfront, -⟩ := Tree.descend?_concat.1 h
    exact Or.inr ⟨_, hfront, fun target => Tree.noConfusion⟩

/-- A new place is on the way of its path, or a name that its directory does not have yet. -/
theorem onWay_of_newPlace (h : newPlace root links here parts = .ok place) (hhere : OnWay root here) :
    OnWay root place ∨ ∃ front name entries, place = front ++ [name] ∧
      root.descend? front = some (.directory entries) ∧ Entries.get? entries name = none := by
  fun_induction newPlace root links here parts with
  | case1 =>
    cases h
    exact Or.inl hhere
  | case2 links here rest ih => exact ih h (Or.inl rfl)
  | case3 links here rest entries hdirectory hne ih => exact ih h (.dropLast hdirectory)
  | case4 links here rest entries hdirectory name hmissing hlast =>
    cases h
    exact Or.inr ⟨here, name, entries, rfl, hdirectory, hmissing⟩
  | case5 => cases h
  | case6 => cases h
  | case7 here rest entries hdirectory name target hentry links hne ih => exact ih h hhere
  | case8 links here rest entries hdirectory name below hplain hentry hne ih =>
    refine ih h (Or.inr ⟨below, ?_, hplain⟩)
    exact Tree.descend?_concat.2 ⟨entries, hdirectory, hentry⟩
  | case9 links here part rest hroot entries hdirectory hparent hname ih => exact ih h hhere
  | case10 => cases h

theorem open_of_newPlace (h : newPlace root links [] parts = .ok place)
    (hplain : (root.descend? place).any Tree.isDirectory = false) : root.Open place := by
  rcases onWay_of_newPlace h (Or.inl rfl) with hway | ⟨front, name, entries, rfl, hfront, hmissing⟩
  · obtain ⟨tree, htree⟩ : ∃ tree, root.descend? place = some tree := by
      rcases hway with rfl | ⟨tree, htree, -⟩
      · exact ⟨root, rfl⟩
      · exact ⟨tree, htree⟩
    rw [htree] at hplain
    exact .of_descend? htree hplain
  · exact .of_fresh hfront hmissing

/-- A new place is no link behind the root. -/
theorem ne_link_of_newPlace (h : newPlace root links [] parts = .ok place) (hplace : place ≠ [])
    (target : String) : root.descend? place ≠ some (.link target) := by
  intro hlink
  rcases onWay_of_newPlace h (Or.inl rfl) with
    (rfl | ⟨tree, htree, hplain⟩) | ⟨front, name, entries, rfl, hfront, hmissing⟩
  · exact hplace rfl
  · rw [hlink] at htree
    cases htree
    exact hplain target rfl
  · obtain ⟨others, hothers, hentry⟩ := Tree.descend?_concat.1 hlink
    rw [hfront] at hothers
    cases hothers
    rw [hmissing] at hentry
    cases hentry

/-- A path leads to its new place once a file stands there. -/
theorem leads_of_newPlace (h : newPlace root links here parts = .ok place) (hopen : root.Open place)
    (hlink : place ≠ [] → ∀ target, root.descend? place ≠ some (.link target)) (bytes : ByteArray) :
    Leads (root.insert (.file bytes) place) links here parts place := by
  have hdirectory : ∀ {names entries}, root.descend? names = some (.directory entries) →
      ∃ others, (root.insert (.file bytes) place).descend? names = some (.directory others) := by
    intro names entries hnames
    have hne : names ≠ place := by
      rintro rfl
      exact hopen.not_directory entries hnames
    obtain ⟨other, hother, halike⟩ := Tree.exists_alike_of_insert hopen (.file bytes) hne hnames
    obtain ⟨others, rfl⟩ := halike.directory
    exact ⟨others, hother⟩
  fun_induction newPlace root links here parts with
  | case1 =>
    cases h
    exact .done
  | case2 links here rest ih => exact .root (ih h)
  | case3 links here rest entries hhere hne ih =>
    obtain ⟨others, hothers⟩ := hdirectory hhere
    exact .parent hothers (ih h)
  | case4 links here rest entries hhere name hmissing hlast =>
    cases h
    obtain rfl := List.isEmpty_iff.1 hlast
    exact .name (Tree.descend?_insert_self _ _ _) (fun target => Tree.noConfusion) .done
  | case5 => cases h
  | case6 => cases h
  | case7 here rest entries hhere name target hentry links hne ih =>
    have hold := Tree.descend?_concat.2 ⟨entries, hhere, hentry⟩
    have hne : here ++ [name] ≠ place := by
      rintro rfl
      exact hlink (by simp) target hold
    obtain ⟨other, hother, halike⟩ := Tree.exists_alike_of_insert hopen (.file bytes) hne hold
    cases halike
    exact .link hother (ih h)
  | case8 links here rest entries hhere name below hplain hentry hne ih =>
    have hold := Tree.descend?_concat.2 ⟨entries, hhere, hentry⟩
    by_cases hnext : here ++ [name] = place
    · subst hnext
      exact .name (Tree.descend?_insert_self _ _ _) (fun target => Tree.noConfusion) (ih h)
    · obtain ⟨other, hother, halike⟩ := Tree.exists_alike_of_insert hopen (.file bytes) hnext hold
      refine .name hother (fun target hother => ?_) (ih h)
      subst hother
      cases halike
      exact hplain target rfl
  | case9 links here part rest hroot entries hhere hparent hname ih =>
    obtain ⟨others, hothers⟩ := hdirectory hhere
    cases part with
    | root => exact absurd rfl hroot
    | parent => exact absurd rfl hparent
    | name name => exact absurd rfl (hname name)
    | current => exact .current hothers (ih h)
  | case10 => cases h

/-! ## Files -/

variable {files written : FileSystem} {path other text : String}

/-- A path leads to what was written to it. -/
theorem place_of_writeText (h : files.writeText path text = .ok written) :
    Text.endsWith '/' path = false ∧ ∃ place, written.place path = .ok place ∧
      written.root.descend? place = some (.file text.toUTF8) := by
  unfold writeText at h
  split at h
  · cases h
  next hpath =>
  obtain ⟨place, hplace, h⟩ := bind_eq_ok_iff.1 h
  split at h
  · cases h
  next hfree =>
  cases h
  obtain ⟨hend, hplain⟩ := not_or.1 hfree
  have hrest : newPlace files.root linkLimit [] (Files.parts (Files.join files.current path)) =
      .ok place := by
    rw [newPlace] at hplace
    exact hplace
  refine ⟨Bool.eq_false_iff.2 hend, place, place_eq_ok_iff.2 ⟨?_, ?_⟩, ?_⟩
  · rintro rfl
    exact hpath rfl
  · have hopen := open_of_newPlace hrest (Bool.eq_false_iff.2 hplain)
    exact .root (leads_of_newPlace hrest hopen (ne_link_of_newPlace hrest) _)
  · exact Tree.descend?_insert_self _ _ _

/-- Every path to the place of a text has it as its file. -/
theorem lookup_eq_file {bytes : ByteArray} (hplace : files.place path = .ok place)
    (hfile : files.root.descend? place = some (.file bytes)) (hend : Text.endsWith '/' path = false) :
    files.lookup path = .ok (.file bytes) :=
  lookup_eq_ok_iff.2 ⟨place, hplace, hfile, fun _ => hend⟩

theorem isFile_eq_true_iff :
    files.isFile path = true ↔ ∃ bytes, files.lookup path = .ok (.file bytes) := by
  unfold isFile
  cases files.lookup path with
  | error trouble => simp [Except.toOption]
  | ok tree => cases tree <;> simp [Except.toOption, Tree.isFile]

theorem readText_of_lookup (h : files.lookup path = .ok (.file text.toUTF8)) :
    files.readText path = .ok text := by
  have htext : String.fromUTF8? text.toUTF8 = some text := dif_pos text.isValidUTF8
  unfold readText
  rw [h, ok_bind]
  dsimp only
  rw [htext]

theorem isFile_of_writeText (h : files.writeText path text = .ok written) :
    written.isFile path = true := by
  obtain ⟨hend, place, hplace, hfile⟩ := place_of_writeText h
  exact isFile_eq_true_iff.2 ⟨_, lookup_eq_file hplace hfile hend⟩

/-- A text that was written is read back, from its own path or from another one to the same file. -/
theorem readText_of_writeText (h : files.writeText path text = .ok written)
    (hfile : written.isFile other = true) (hsame : written.place other = written.place path) :
    written.readText other = .ok text := by
  obtain ⟨-, place, hplace, hwritten⟩ := place_of_writeText h
  obtain ⟨bytes, hlookup⟩ := isFile_eq_true_iff.1 hfile
  obtain ⟨place', hplace', hbytes, hend⟩ := lookup_eq_ok_iff.1 hlookup
  rw [hsame, hplace] at hplace'
  cases hplace'
  exact readText_of_lookup (lookup_eq_file (hsame.trans hplace) hwritten (hend rfl))

end FileSystem

end Schemata.Files
