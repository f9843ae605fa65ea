import Schemata.Files.Tree
import Schemata.Proofs.EntryOrder
import Schemata.Proofs.Json.Pointer
import Schemata.Proofs.Outcomes

/-!
# Places of files

Where a path leads, as a relation that has one rule for each kind of part. A name behind a path leads
to the entry of the directory that the path leads to, if that is no link.

    a tree stays proper when something is put into it                          (Proper.insert)
    Leads root links here parts place ↔ walk root links here parts = .ok place       (leads_iff)
    parts (join path name) = parts path ++ [.name name]                               (parts_join)
    files.place path = .ok place → files.place (join path name) = .ok (place ++ [name])
                                                                                      (place_join)
-/

namespace Schemata.Files

/-! ## Trees -/

/-- A tree as a disk keeps it: the entries of every directory are in order of their names, which have
no slashes. Every tree is proper that things of such names were put into one by one. -/
inductive Tree.Proper : Tree → Prop
  | file (bytes : ByteArray) : Proper (.file bytes)
  | link (target : String) : Proper (.link target)
  | directory {entries : List (String × Tree)} (hascends : Entries.Ascending entries)
      (hnames : ∀ entry ∈ entries, '/' ∉ entry.1.toList)
      (hinner : ∀ entry ∈ entries, Proper entry.2) : Proper (.directory entries)

namespace Tree

variable {tree below : Tree}

theorem Proper.empty : (Tree.directory []).Proper :=
  .directory Entries.ascending_nil (List.forall_mem_nil _) (List.forall_mem_nil _)

theorem Proper.get? {entries : List (String × Tree)} (h : (Tree.directory entries).Proper) {name : String}
    (hget : Entries.get? entries name = some tree) : tree.Proper := by
  cases h with
  | directory _ _ hinner => exact hinner _ (Entries.mem_of_get? hget)

/-- Names lead further only from a directory. -/
theorem descend?_cons {name : String} {names : List String} :
    tree.descend? (name :: names) = some below ↔ ∃ entries inner, tree = directory entries ∧
      Entries.get? entries name = some inner ∧ inner.descend? names = some below := by
  constructor
  · intro h
    obtain ⟨inner, hentry, hinner⟩ := Option.bind_eq_some_iff.1 h
    cases tree with
    | directory entries => exact ⟨entries, inner, rfl, hentry, hinner⟩
    | file bytes => cases hentry
    | link target => cases hentry
  · rintro ⟨entries, inner, rfl, hentry, hinner⟩
    exact Option.bind_eq_some_iff.2 ⟨inner, hentry, hinner⟩

/-- What stands in a proper tree is proper. -/
theorem Proper.descend? (h : tree.Proper) {names : List String}
    (hbelow : tree.descend? names = some below) : below.Proper := by
  induction names generalizing tree with
  | nil =>
    cases hbelow
    exact h
  | cons name names ih =>
    obtain ⟨entries, inner, rfl, hentry, hinner⟩ := descend?_cons.1 hbelow
    exact ih (h.get? hentry) hinner

/-- A proper tree stays proper when something proper is put into it. -/
theorem Proper.insert (h : tree.Proper) (hbelow : below.Proper) {names : List String}
    (hnames : ∀ name ∈ names, '/' ∉ name.toList) : (tree.insert below names).Proper := by
  induction names generalizing tree with
  | nil => exact hbelow
  | cons name names ih =>
    obtain ⟨hname, hrest⟩ := List.forall_mem_cons.1 hnames
    obtain ⟨entries, hentries, hproper⟩ : ∃ entries, tree.insert below (name :: names) =
        Tree.directory (Entries.put entries name
          (((Entries.get? entries name).getD (Tree.directory [])).insert below names)) ∧
        (Tree.directory entries).Proper := by
      cases tree with
      | directory entries => exact ⟨entries, rfl, h⟩
      | file bytes => exact ⟨[], rfl, .empty⟩
      | link target => exact ⟨[], rfl, .empty⟩
    have hinner : ((Entries.get? entries name).getD (Tree.directory [])).Proper := by
      cases hget : Entries.get? entries name with
      | none => exact .empty
      | some inner => exact hproper.get? hget
    rw [hentries]
    cases hproper with
    | directory hascends hslashes hall =>
      refine .directory (hascends.put name _) (fun entry hentry => ?_) fun entry hentry => ?_
      · rcases Entries.mem_put _ _ _ _ hentry with rfl | hold
        · exact hname
        · exact hslashes entry hold
      · rcases Entries.mem_put _ _ _ _ hentry with rfl | hold
        · exact ih hinner hrest
        · exact hall entry hold

theorem descend?_append (tree : Tree) (names rest : List String) :
    tree.descend? (names ++ rest) = (tree.descend? names).bind fun below => below.descend? rest := by
  induction names generalizing tree with
  | nil => rfl
  | cons name names ih =>
    show (tree.entry? name).bind _ = ((tree.entry? name).bind _).bind _
    rw [Option.bind_assoc]
    exact congrArg _ (funext fun below => ih below)

/-- One name further there is an entry of the directory there. -/
theorem descend?_concat {names : List String} {name : String} :
    tree.descend? (names ++ [name]) = some below ↔ ∃ entries,
      tree.descend? names = some (directory entries) ∧ Entries.get? entries name = some below := by
  rw [descend?_append, Option.bind_eq_some_iff]
  constructor
  · rintro ⟨inner, hinner, hbelow⟩
    obtain ⟨entries, below, rfl, hentry, hbelow⟩ := descend?_cons.1 hbelow
    cases hbelow
    exact ⟨entries, hinner, hentry⟩
  · rintro ⟨entries, hinner, hentry⟩
    exact ⟨_, hinner, descend?_cons.2 ⟨entries, below, rfl, hentry, rfl⟩⟩

end Tree

/-! ## Paths -/

theorem splitChars_ne_nil (c : Char) (text : List Char) : Text.splitChars c text ≠ [] := by
  cases text with
  | nil => exact List.cons_ne_nil _ _
  | cons d text =>
    unfold Text.splitChars
    split
    · exact List.cons_ne_nil _ _
    · split <;> exact List.cons_ne_nil _ _

/-- A text falls apart at every separator. -/
theorem splitChars_separated (c : Char) (front rest : List Char) :
    Text.splitChars c (front ++ c :: rest) = Text.splitChars c front ++ Text.splitChars c rest := by
  induction front with
  | nil => simp [Text.splitChars]
  | cons d front ih =>
    rw [List.cons_append, Text.splitChars, Text.splitChars, ih]
    split
    · rfl
    · cases hparts : Text.splitChars c front with
      | nil => exact absurd hparts (splitChars_ne_nil c front)
      | cons part parts => rfl

/-- A name of a file or of a directory: no separator, and none of the names that mean another place. -/
def IsName (name : String) : Prop := '/' ∉ name.toList ∧ name ≠ "" ∧ name ≠ "." ∧ name ≠ ".."

/-- A path with a name behind it. -/
theorem join_name {path name : String} (hpath : path ≠ "") (hname : IsName name) :
    join path name = if Text.endsWith '/' path then path ++ name else path ++ "/" ++ name := by
  have hstart : Text.startsWith '/' name = false := by
    rw [Text.startsWith, decide_eq_false_iff_not]
    intro hhead
    exact hname.1 (List.mem_of_head? hhead)
  unfold join
  rw [hstart, if_neg Bool.false_ne_true]
  simp [hpath]

theorem endsWith_name (front : String) {name : String} (hname : IsName name) :
    Text.endsWith '/' (front ++ name) = false := by
  rw [Text.endsWith, decide_eq_false_iff_not, String.toList_append, List.getLast?_append]
  intro hlast
  cases hend : name.toList.getLast? with
  | none => exact hname.2.1 (String.toList_eq_nil_iff.1 (List.getLast?_eq_none_iff.1 hend))
  | some c =>
    rw [hend] at hlast
    cases hlast
    exact hname.1 (List.mem_of_getLast? hend)

theorem endsWith_join {path name : String} (hpath : path ≠ "") (hname : IsName name) :
    Text.endsWith '/' (join path name) = false := by
  rw [join_name hpath hname]
  split
  · exact endsWith_name _ hname
  · exact endsWith_name _ hname

theorem join_ne_empty {path name : String} (hpath : path ≠ "") (hname : IsName name) :
    join path name ≠ "" := by
  rw [join_name hpath hname]
  split <;> simp [hpath]

theorem join_right_ne_empty (directory : String) {path : String} (hpath : path ≠ "") :
    join directory path ≠ "" := by
  unfold join
  split
  · exact hpath
  · split <;> simp [hpath]

theorem startsWith_append {front : String} (hfront : front ≠ "") (rest : String) :
    Text.startsWith '/' (front ++ rest) = Text.startsWith '/' front := by
  unfold Text.startsWith
  rw [String.toList_append]
  cases hchars : front.toList with
  | nil => exact absurd (String.toList_eq_nil_iff.1 hchars) hfront
  | cons c chars => rfl

theorem endsWith_append (front : String) {rest : String} (hrest : rest ≠ "") :
    Text.endsWith '/' (front ++ rest) = Text.endsWith '/' rest := by
  unfold Text.endsWith
  rw [String.toList_append, List.getLast?_append]
  cases hlast : rest.toList.getLast? with
  | none => exact absurd (String.toList_eq_nil_iff.1 (List.getLast?_eq_none_iff.1 hlast)) hrest
  | some c => rfl

/-- A path below another one is seen from a directory as the other one is. -/
theorem join_join (directory : String) {path name : String} (hpath : path ≠ "")
    (hname : IsName name) : join directory (join path name) = join (join directory path) name := by
  have hjoined : ∃ rest, join path name = path ++ rest := by
    rw [join_name hpath hname]
    split
    · exact ⟨name, rfl⟩
    · exact ⟨"/" ++ name, String.append_assoc⟩
  obtain ⟨rest, hrest⟩ := hjoined
  have hstart : Text.startsWith '/' (join path name) = Text.startsWith '/' path := by
    rw [hrest, startsWith_append hpath]
  have hfar : ∀ front, front ++ join path name = join (front ++ path) name := by
    intro front
    rw [join_name hpath hname, join_name (by simp [hpath]) hname, endsWith_append front hpath]
    split <;> simp only [String.append_assoc]
  rw [join.eq_def directory (join path name), join.eq_def directory path, hstart]
  split
  · rfl
  · split
    · exact hfar directory
    · exact hfar (directory ++ "/")

/-- A name behind a path is a word of its own; a separator at the end of the path has no word behind
it. -/
theorem splitAll_join {path name : String} (hpath : path ≠ "") (hname : IsName name) :
    ∃ words, words ≠ [] ∧ (Text.splitAll '/' path = words ∨ Text.splitAll '/' path = words ++ [""]) ∧
      Text.splitAll '/' (join path name) = words ++ [name] := by
  have hword : Text.splitChars '/' name.toList = [name.toList] := Json.splitChars_of_not_mem hname.1
  unfold Text.splitAll
  rw [join_name hpath hname]
  split
  · next hend =>
    rw [Text.endsWith, decide_eq_true_eq, List.getLast?_eq_some_iff] at hend
    obtain ⟨front, hfront⟩ := hend
    have hjoined : (path ++ name).toList = front ++ '/' :: name.toList := by
      rw [String.toList_append, hfront, List.append_assoc, List.singleton_append]
    refine ⟨(Text.splitChars '/' front).map String.ofList, ?_, Or.inr ?_, ?_⟩
    · exact mt List.map_eq_nil_iff.1 (splitChars_ne_nil _ _)
    · rw [hfront, splitChars_separated, List.map_append]
      rfl
    · rw [hjoined, splitChars_separated, hword, List.map_append, List.map_singleton,
        String.ofList_toList]
  · have hjoined : (path ++ "/" ++ name).toList = path.toList ++ '/' :: name.toList := by
      simp [String.toList_append]
    refine ⟨(Text.splitChars '/' path.toList).map String.ofList, ?_, Or.inl rfl, ?_⟩
    · exact mt List.map_eq_nil_iff.1 (splitChars_ne_nil _ _)
    · rw [hjoined, splitChars_separated, hword, List.map_append, List.map_singleton,
        String.ofList_toList]

/-- A name that is written behind a path is one more part. -/
theorem parts_join {path name : String} (hpath : path ≠ "") (hname : IsName name) :
    parts (join path name) = parts path ++ [.name name] := by
  obtain ⟨words, hwords, hbefore, hjoined⟩ := splitAll_join hpath hname
  have hstart : Text.startsWith '/' (join path name) = Text.startsWith '/' path := by
    rw [join_name hpath hname]
    split
    · exact startsWith_append hpath name
    · rw [String.append_assoc, startsWith_append hpath]
  have hhead : ∀ word, (words ++ [word]).head? = words.head? := by
    cases words with
    | nil => exact absurd rfl hwords
    | cons first words => exact fun _ => rfl
  obtain ⟨-, hempty, hdot, hdots⟩ := hname
  have hpart : (if name = "" ∨ name = "." then none
      else if name = ".." then some Part.parent else some (.name name)) = some (.name name) := by
    rw [if_neg (not_or.2 ⟨hempty, hdot⟩), if_neg hdots]
  unfold parts
  dsimp only
  rw [hstart, hjoined, hhead, List.filterMap_append, List.filterMap_cons, hpart, List.filterMap_nil,
    ← List.append_assoc]
  rcases hbefore with hbefore | hbefore
  · rw [hbefore]
  · rw [hbefore, hhead, List.filterMap_append]
    simp

namespace FileSystem

/-! ## Walks -/

/-- Where parts lead to from a place, with some links that may be followed. -/
inductive Leads (root : Tree) : Nat → List String → List Part → List String → Prop
  | done {links : Nat} {here : List String} : Leads root links here [] here
  | root {links : Nat} {here place : List String} {rest : List Part}
      (hrest : Leads root links [] rest place) : Leads root links here (.root :: rest) place
  | parent {links : Nat} {here place : List String} {rest : List Part}
      {entries : List (String × Tree)} (hhere : root.descend? here = some (.directory entries))
      (hrest : Leads root links here.dropLast rest place) :
      Leads root links here (.parent :: rest) place
  | current {links : Nat} {here place : List String} {rest : List Part}
      {entries : List (String × Tree)} (hhere : root.descend? here = some (.directory entries))
      (hrest : Leads root links here rest place) : Leads root links here (.current :: rest) place
  | link {links : Nat} {here place : List String} {name target : String} {rest : List Part}
      (hlink : root.descend? (here ++ [name]) = some (.link target))
      (hrest : Leads root links here (Files.parts target ++ rest) place) :
      Leads root (links + 1) here (.name name :: rest) place
  | name {links : Nat} {here place : List String} {name : String} {below : Tree} {rest : List Part}
      (hbelow : root.descend? (here ++ [name]) = some below)
      (hplain : ∀ target, below ≠ .link target)
      (hrest : Leads root links (here ++ [name]) rest place) :
      Leads root links here (.name name :: rest) place

variable {root : Tree} {links : Nat} {here place : List String} {parts : List Part}

theorem Leads.walk_eq (h : Leads root links here parts place) :
    walk root links here parts = .ok place := by
  induction h with
  | done => rw [walk]
  | root _ ih => rw [walk, ih]
  | parent hhere _ ih =>
    rw [walk, hhere]
    · exact ih
    · exact Part.noConfusion
  | current hhere _ ih =>
    rw [walk, hhere]
    · exact ih
    · exact Part.noConfusion
  | link hlink _ ih =>
    obtain ⟨entries, hhere, hentry⟩ := Tree.descend?_concat.1 hlink
    rw [walk, hhere]
    · dsimp only
      rw [hentry]
      exact ih
    · exact Part.noConfusion
  | @name links here place name below rest hbelow hplain _ ih =>
    obtain ⟨entries, hhere, hentry⟩ := Tree.descend?_concat.1 hbelow
    rw [walk, hhere]
    · dsimp only
      rw [hentry]
      cases below with
      | link target => exact absurd rfl (hplain target)
      | file bytes => exact ih
      | directory inner => exact ih
    · exact Part.noConfusion

theorem leads_of_walk (h : walk root links here parts = .ok place) :
    Leads root links here parts place := by
  fun_induction walk root links here parts with
  | case1 =>
    cases h
    exact .done
  | case2 links here rest ih => exact .root (ih h)
  | case3 links here rest entries hhere hne ih => exact .parent hhere (ih h)
  | case4 => cases h
  | case5 => cases h
  | case6 here rest entries hhere name target hentry links hne ih =>
    exact .link (Tree.descend?_concat.2 ⟨entries, hhere, hentry⟩) (ih h)
  | case7 links here rest entries hhere name below hplain hentry hne ih =>
    exact .name (Tree.descend?_concat.2 ⟨entries, hhere, hentry⟩) hplain (ih h)
  | case8 links here part rest hroot entries hhere hparent hname ih =>
    cases part with
    | root => exact absurd rfl hroot
    | parent => exact absurd rfl hparent
    | name name => exact absurd rfl (hname name)
    | current => exact .current hhere (ih h)
  | case9 => cases h

theorem leads_iff : Leads root links here parts place ↔ walk root links here parts = .ok place :=
  ⟨Leads.walk_eq, leads_of_walk⟩

/-- One name more leads to an entry of the directory, unless that is a link. -/
theorem Leads.concat (h : Leads root links here parts place) {name : String} {below : Tree}
    (hbelow : root.descend? (place ++ [name]) = some below) (hplain : ∀ target, below ≠ .link target) :
    Leads root links here (parts ++ [.name name]) (place ++ [name]) := by
  induction h with
  | done => exact .name hbelow hplain .done
  | root _ ih => exact .root (ih hbelow)
  | parent hhere _ ih => exact .parent hhere (ih hbelow)
  | current hhere _ ih => exact .current hhere (ih hbelow)
  | link hlink _ ih =>
    have hon := ih hbelow
    rw [List.append_assoc] at hon
    exact .link hlink hon
  | name hentry hentryPlain _ ih => exact .name hentry hentryPlain (ih hbelow)

/-! ## Places -/

variable {files : FileSystem} {path name : String} {tree : Tree}

theorem place_eq_ok_iff : files.place path = .ok place ↔ path ≠ "" ∧
    Leads files.root linkLimit [] (.root :: Files.parts (Files.join files.current path)) place := by
  rw [leads_iff]
  unfold FileSystem.place
  by_cases hpath : path = ""
  · simp [hpath]
  · simp [hpath]

/-- A path with a name behind it leads to the entry of the directory that the path leads to, unless
that is a link. -/
theorem place_join (h : files.place path = .ok place) (hname : IsName name)
    (hbelow : files.root.descend? (place ++ [name]) = some tree)
    (hplain : ∀ target, tree ≠ .link target) :
    files.place (Files.join path name) = .ok (place ++ [name]) := by
  obtain ⟨hpath, hleads⟩ := place_eq_ok_iff.1 h
  refine place_eq_ok_iff.2 ⟨join_ne_empty hpath hname, ?_⟩
  rw [join_join _ hpath hname, parts_join (join_right_ne_empty _ hpath) hname]
  exact hleads.concat hbelow hplain

theorem lookup_eq_ok_iff : files.lookup path = .ok tree ↔ ∃ place, files.place path = .ok place ∧
    files.root.descend? place = some tree ∧
    (tree.isFile = true → Text.endsWith '/' path = false) := by
  unfold lookup
  rw [bind_eq_ok_iff]
  refine exists_congr fun place => and_congr_right fun _ => ?_
  cases files.root.descend? place with
  | none => simp
  | some below =>
    dsimp only
    split
    · next hfile =>
      rw [Bool.and_eq_true] at hfile
      constructor
      · intro h
        cases h
      · rintro ⟨hbelow, hend⟩
        cases hbelow
        rw [hend hfile.1] at hfile
        exact absurd hfile.2 Bool.false_ne_true
    · next hfile =>
      constructor
      · intro h
        cases h
        refine ⟨rfl, fun hisFile => Bool.eq_false_iff.2 fun hslash => hfile ?_⟩
        rw [hisFile, hslash]
        rfl
      · rintro ⟨hbelow, -⟩
        cases hbelow
        rfl

end FileSystem

end Schemata.Files
