import Mathlib
import SnippetMarkup.Proofs.Files.Tree
import SnippetMarkup.Proofs.Text.Cut
import SnippetMarkup.Source.Library

/-!
# Which file is found

The file of a snippet is looked for at its path from one search folder after the other, and then by
its name below them.  The answer is the one that is asked for, with three exceptions: a name can be
a pattern, which stands for other names; paths and names can be refused; and a file below two search
folders is found twice, as if there were two of them.
-/

namespace SnippetMarkup.Library

variable {library : Library} {relative name : Text} {folder path : Path} {folders : List Path}
  {place top : Place}

/-! ## What is looked for -/

/-- Whether a path is the first one to a file among those that lead on from the search folders. -/
def IsDirect (library : Library) (relative : Text) (path : Path) : Prop :=
  ∃ before folder after, library.folders = before ++ folder :: after ∧
    (∀ earlier ∈ before, library.tree.isFile (earlier.extend relative) ≠ .ok true) ∧
    library.tree.isFile (folder.extend relative) = .ok true ∧ path = folder.extend relative

/-- Whether a file with a name stands at a place below a search folder, and a path leads from the
search folder to it. -/
def IsNamed (library : Library) (name : Text) (path : Path) (place : Place) : Prop :=
  name ≠ [] ∧ ∃ folder ∈ library.folders, ∃ top rest contents,
    library.tree.locate folder = .ok top ∧ library.tree.entry? top = some .folder ∧
      place = top ++ rest ∧ library.tree.entry? place = some (.file contents) ∧
      rest.getLast? = some name ∧ path = ⟨folder.root, folder.names ++ rest⟩

/-- Whether the file at a place is the only one with a name below the search folders. -/
def IsOnly (library : Library) (name : Text) (place : Place) : Prop :=
  (∃ path, library.IsNamed name path place) ∧
    ∀ path other, library.IsNamed name path other → other = place

/-- Whether an answer is the one that is asked for: the first direct path to a file; or if there is
none, a path to the only file with the name; or nothing, if there is no such file either, or more
than one. -/
def Answers (library : Library) (relative : Text) : Option Path → Prop
  | some path => library.IsDirect relative path ∨
      (∀ folder ∈ library.folders, library.tree.isFile (folder.extend relative) ≠ .ok true) ∧
        ∃ place, library.IsNamed (Path.ofText relative).name path place ∧
          library.IsOnly (Path.ofText relative).name place
  | none =>
      (∀ folder ∈ library.folders, library.tree.isFile (folder.extend relative) ≠ .ok true) ∧
        ∀ place, ¬library.IsOnly (Path.ofText relative).name place

/-! ## Direct paths -/

/-- Whether no path that leads on from one of some folders leads to a file, and none is refused. -/
def Misses (library : Library) (relative : Text) (folders : List Path) : Prop :=
  ∀ folder ∈ folders, library.tree.isFile (folder.extend relative) = .ok false

theorem misses_cons_iff :
    library.Misses relative (folder :: folders) ↔
      library.tree.isFile (folder.extend relative) = .ok false ∧ library.Misses relative folders :=
  List.forall_mem_cons

theorem findDirect_go_cons (library : Library) (relative : Text) (folder : Path)
    (folders : List Path) :
    findDirect.go library relative (folder :: folders) =
      match library.tree.isFile (folder.extend relative) with
      | .error error => .error (.file error)
      | .ok true => .ok (some (folder.extend relative))
      | .ok false => findDirect.go library relative folders := by
  rw [findDirect.go]
  cases library.tree.isFile (folder.extend relative) with
  | error error => rfl
  | ok found => cases found <;> rfl

theorem findDirect_go_eq_some_iff :
    findDirect.go library relative folders = .ok (some path) ↔
      ∃ before folder after, folders = before ++ folder :: after ∧
        library.Misses relative before ∧
        library.tree.isFile (folder.extend relative) = .ok true ∧
        path = folder.extend relative := by
  induction folders with
  | nil => simp [findDirect.go]
  | cons folder folders ih =>
    rw [findDirect_go_cons]
    constructor
    · intro found
      split at found
      · cases found
      · next here =>
        obtain rfl := Option.some.inj (Except.ok.inj found)
        exact ⟨[], folder, folders, rfl, by simp [Misses], here, rfl⟩
      · next missed =>
        obtain ⟨before, later, after, rfl, misses, here, same⟩ := ih.1 found
        exact ⟨folder :: before, later, after, rfl, misses_cons_iff.2 ⟨missed, misses⟩, here, same⟩
    · rintro ⟨before, later, after, cut, misses, here, same⟩
      cases before with
      | nil =>
        obtain ⟨rfl, rfl⟩ := List.cons.inj cut
        rw [here, same]
      | cons first before =>
        obtain ⟨rfl, rfl⟩ := List.cons.inj cut
        obtain ⟨missed, misses⟩ := misses_cons_iff.1 misses
        rw [missed]
        exact ih.2 ⟨before, later, after, rfl, misses, here, same⟩

theorem findDirect_go_eq_none_iff :
    findDirect.go library relative folders = .ok none ↔ library.Misses relative folders := by
  induction folders with
  | nil => simp [findDirect.go, Misses]
  | cons folder folders ih =>
    rw [findDirect_go_cons, misses_cons_iff]
    cases library.tree.isFile (folder.extend relative) with
    | error error => simp
    | ok found => cases found <;> simp [ih]

theorem exists_findDirect_go (tried : ∀ folder ∈ folders, ∃ found,
    library.tree.isFile (folder.extend relative) = .ok found) :
    ∃ answer, findDirect.go library relative folders = .ok answer := by
  induction folders with
  | nil => exact ⟨none, rfl⟩
  | cons folder folders ih =>
    rw [List.forall_mem_cons] at tried
    obtain ⟨⟨found, answered⟩, tried⟩ := tried
    rw [findDirect_go_cons, answered]
    cases found with
    | true => exact ⟨_, rfl⟩
    | false => exact ih tried

/-! ## Files below search folders -/

/-- Where a search folder is, if it is there. -/
def top? (library : Library) (folder : Path) : Option Place :=
  match library.tree.locate folder with
  | .ok place => if library.tree.entry? place = some .folder then some place else none
  | .error _ => none

/-- The files below a search folder whose names are wanted, with the paths that lead to them. -/
def below (library : Library) (wanted : Text → Bool) (folder : Path) : List (Path × Place) :=
  (library.top? folder).toList.flatMap fun top =>
    library.tree.files.filterMap fun (place, _) =>
      (top.isPrefixOf? place).bind fun rest =>
        if rest.getLast?.any wanted then some (⟨folder.root, folder.names ++ rest⟩, place) else none

/-- The files with wanted names below all of the search folders, one folder after the other. -/
def hits (library : Library) (wanted : Text → Bool) : List (Path × Place) :=
  library.folders.flatMap (library.below wanted)

/-- Whether a name is refused where there is a folder in which it could be looked for. -/
def IsRefused (name : Text) : Prop :=
  Glob.hasStrayDoubleStar name = true ∨
    Glob.isPattern name = false ∧ FileTree.longestName < (Utf8.encode name).length

/-- Whether neither a search folder nor the name that is looked for in it is refused. -/
def Searchable (library : Library) (name : Text) (folder : Path) : Prop :=
  library.tree.isFolder folder = .ok false ∨
    library.tree.isFolder folder = .ok true ∧ ¬IsRefused name

theorem top?_eq_some_iff :
    library.top? folder = some top ↔
      library.tree.locate folder = .ok top ∧ library.tree.entry? top = some .folder := by
  unfold top?
  cases library.tree.locate folder with
  | error fault => simp
  | ok place => aesop

theorem isSome_top? {found : Bool} (answered : library.tree.isFolder folder = .ok found) :
    (library.top? folder).isSome = found := by
  unfold FileTree.isFolder FileTree.look at answered
  unfold top?
  cases located : library.tree.locate folder with
  | error fault =>
    rw [located] at answered
    cases fault <;> simp [Except.map] at answered <;> simp [answered]
  | ok place =>
    rw [located] at answered
    simp only [Except.map, Except.ok.injEq] at answered
    rw [← answered]
    by_cases inside : library.tree.entry? place = some .folder <;> simp [inside]

/-- Whether a file with the last name is found when a name is looked for. -/
def seeks (name last : Text) : Bool := name ≠ [] && nameMatches name last

theorem map_below (library : Library) (name : Text) {folder : Path} {top : Place}
    (there : library.top? folder = some top) :
    (library.below (seeks name) folder).map (·.1) =
      ((library.tree.filesBelow top).filter fun names =>
        name ≠ [] && nameMatches name (names.getLast?.getD [])).map fun names =>
          ⟨folder.root, folder.names ++ names⟩ := by
  rw [below, there, FileTree.filesBelow, List.filter_filterMap, List.map_filterMap]
  simp only [Option.toList_some, List.flatMap_singleton, List.map_filterMap]
  refine List.filterMap_congr fun entry _ => ?_
  obtain ⟨place, contents⟩ := entry
  cases top.isPrefixOf? place with
  | none => rfl
  | some rest =>
    cases rest using List.reverseRecOn with
    | nil => rfl
    | append_singleton names last =>
      cases sought : seeks name last with
      | true =>
        have same : name ≠ [] ∧ nameMatches name last = true := by simpa [seeks] using sought
        simp [sought, same]
      | false =>
        have same : name ≠ [] → nameMatches name last = false := by simpa [seeks] using sought
        simpa [sought] using same

theorem below_of_missing {wanted : Text → Bool} (missing : library.top? folder = none) :
    library.below wanted folder = [] := by
  rw [below, missing]
  rfl

/-- What is found below a search folder are the paths to the files that are wanted there. -/
theorem namedBelow_eq_ok_iff {found : List Path} :
    library.namedBelow name folder = .ok found ↔
      library.Searchable name folder ∧
        found = (library.below (seeks name) folder).map (·.1) := by
  unfold namedBelow Searchable
  cases answered : library.tree.isFolder folder with
  | error error => simp [bind, Except.bind, Except.mapError]
  | ok isThere =>
    cases isThere with
    | false =>
      have missing := Option.not_isSome_iff_eq_none.1 (isSome_top? answered ▸ Bool.false_ne_true)
      rw [below_of_missing missing]
      constructor
      · intro result
        exact ⟨.inl rfl, (Except.ok.inj result).symm⟩
      · rintro ⟨-, rfl⟩
        rfl
    | true =>
      obtain ⟨top, there⟩ := Option.isSome_iff_exists.1 (isSome_top? answered)
      rw [map_below library name there, (top?_eq_some_iff.1 there).1]
      cases stray : Glob.hasStrayDoubleStar name with
      | true =>
        simp [bind, Except.bind, Except.mapError, throw, throwThe, MonadExceptOf.throw, IsRefused,
          stray]
      | false =>
        cases long : !Glob.isPattern name &&
            decide (FileTree.longestName < (Utf8.encode name).length) with
        | true =>
          have refused : IsRefused name := .inr (by simpa using long)
          simp [bind, Except.bind, Except.mapError, throw, throwThe, MonadExceptOf.throw, refused]
        | false =>
          have allowed : ¬IsRefused name := by
            rintro (wild | tooLong)
            · exact Bool.false_ne_true (stray ▸ wild)
            · simp [tooLong] at long
          simp [bind, Except.bind, Except.mapError, pure, Except.pure, allowed, eq_comm]

theorem mapM_eq_ok_iff {α β ε : Type} {f : α → Except ε β} {allowed : α → Prop} {g : α → β}
    (each : ∀ x y, f x = .ok y ↔ allowed x ∧ y = g x) {xs : List α} {ys : List β} :
    xs.mapM f = .ok ys ↔ (∀ x ∈ xs, allowed x) ∧ ys = xs.map g := by
  induction xs generalizing ys with
  | nil => simp [pure, Except.pure, eq_comm]
  | cons x xs ih =>
    rw [List.mapM_cons, List.forall_mem_cons]
    cases first : f x with
    | error error =>
      have refused : ¬allowed x := fun holds => by
        cases first.symm.trans ((each x (g x)).2 ⟨holds, rfl⟩)
      simp [bind, Except.bind, refused]
    | ok y =>
      obtain ⟨holds, rfl⟩ := (each x y).1 first
      cases others : xs.mapM f with
      | error error =>
        have refused : ¬∀ x ∈ xs, allowed x := fun holds => by
          cases others.symm.trans (ih.2 ⟨holds, rfl⟩)
        simp [bind, Except.bind, refused]
      | ok rest =>
        obtain ⟨hold, rfl⟩ := ih.1 others
        simp [bind, Except.bind, pure, Except.pure, holds, eq_true hold, eq_comm]

/-! ## The search -/

theorem map_hits (library : Library) (wanted : Text → Bool) :
    (library.folders.map fun folder => (library.below wanted folder).map (·.1)).flatten =
      (library.hits wanted).map (·.1) := by
  rw [hits, List.map_flatMap, List.flatMap_def]

theorem searches_iff {found : List (List Path)} :
    library.folders.mapM (library.namedBelow name) = .ok found ↔
      (∀ folder ∈ library.folders, library.Searchable name folder) ∧
        found = library.folders.map fun folder => (library.below (seeks name) folder).map (·.1) :=
  mapM_eq_ok_iff fun _ _ => namedBelow_eq_ok_iff

/-- The only one of some paths. -/
def only? : List Path → Option Path
  | [path] => some path
  | _ => none

theorem only?_eq_some_iff {hits : List (Path × Place)} :
    only? (hits.map (·.1)) = some path ↔ ∃ place, hits = [(path, place)] := by
  match hits with
  | [] => simp [only?]
  | [hit] =>
    obtain ⟨other, place⟩ := hit
    simp [only?]
  | first :: second :: rest => simp [only?]

theorem only?_eq_none_iff {paths : List Path} : only? paths = none ↔ paths.length ≠ 1 := by
  match paths with
  | [] => simp [only?]
  | [path] => simp [only?]
  | first :: second :: rest => simp [only?]

/-- If no direct path leads to a file, the only path to a file with the name is taken. -/
theorem findPath_result (library : Library) (relative : Text) (answer : Option Path) :
    (library.findPath relative).result = .ok answer ↔
      (∃ path, answer = some path ∧ library.findDirect relative = .ok (some path)) ∨
        library.findDirect relative = .ok none ∧
          (∀ folder ∈ library.folders, library.Searchable (Path.ofText relative).name folder) ∧
          answer = only? ((library.hits (seeks (Path.ofText relative).name)).map (·.1)) := by
  unfold findPath
  cases direct : library.findDirect relative with
  | error failure => simp [Reported.ofExcept]
  | ok first =>
    cases first with
    | some path => simp [Reported.ofExcept, eq_comm]
    | none =>
      cases searched : library.folders.mapM (library.namedBelow (Path.ofText relative).name) with
      | error failure =>
        have refused : ¬∀ folder ∈ library.folders,
            library.Searchable (Path.ofText relative).name folder := fun searchable => by
          cases searched.symm.trans (searches_iff.2 ⟨searchable, rfl⟩)
        simp [Reported.ofExcept, searched, refused]
      | ok found =>
        obtain ⟨searchable, rfl⟩ := searches_iff.1 searched
        simp only [Reported.ofExcept, Reported.bind_ok, searched, map_hits, eq_true searchable]
        generalize (library.hits (seeks (Path.ofText relative).name)).map (·.1) = paths
        match paths with
        | [] => simp [only?, eq_comm]
        | [path] => simp [only?, eq_comm]
        | first :: second :: rest => simp [only?, eq_comm, Reported.note, Reported.report]

/-! ## Plain names -/

theorem exists_file_iff {tree : FileTree} :
    (∃ contents, tree.entry? place = some (.file contents)) ↔ place ∈ tree.files.map (·.1) := by
  constructor
  · rintro ⟨contents, listed⟩
    by_contra missing
    have unlisted : tree.files.lookup place = none := by
      refine List.lookup_eq_none_iff.2 fun entry member => bne_iff_ne.2 fun same => ?_
      exact missing (List.mem_map.2 ⟨entry, member, same.symm⟩)
    rw [FileTree.entry?, unlisted] at listed
    dsimp only at listed
    split at listed <;> cases listed
  · intro listed
    cases found : tree.files.lookup place with
    | none =>
      obtain ⟨entry, member, same⟩ := List.mem_map.1 listed
      exact absurd same.symm (bne_iff_ne.1 (List.lookup_eq_none_iff.1 found entry member))
    | some contents => exact ⟨contents, by rw [FileTree.entry?, found]⟩

theorem mem_below_iff {wanted : Text → Bool} :
    (path, place) ∈ library.below wanted folder ↔
      ∃ top rest, library.top? folder = some top ∧ place = top ++ rest ∧
        place ∈ library.tree.files.map (·.1) ∧ rest.getLast?.any wanted = true ∧
        path = ⟨folder.root, folder.names ++ rest⟩ := by
  rw [below, List.mem_flatMap]
  constructor
  · rintro ⟨top, there, member⟩
    obtain ⟨⟨other, contents⟩, listed, found⟩ := List.mem_filterMap.1 member
    obtain ⟨rest, isBelow, found⟩ := Option.bind_eq_some_iff.1 found
    obtain ⟨sought, same⟩ := Option.ite_none_right_eq_some.1 found
    obtain ⟨rfl, rfl⟩ := Prod.mk.inj (Option.some.inj same)
    refine ⟨top, rest, Option.mem_toList.1 there, ?_, List.mem_map.2 ⟨_, listed, rfl⟩, sought, rfl⟩
    exact (List.isPrefixOf?_eq_some_iff_append_eq.1 isBelow).symm
  · rintro ⟨top, rest, there, rfl, listed, sought, rfl⟩
    obtain ⟨entry, member, same⟩ := List.mem_map.1 listed
    refine ⟨top, Option.mem_toList.2 there, List.mem_filterMap.2 ⟨entry, member, ?_⟩⟩
    dsimp only
    rw [same, List.isPrefixOf?_eq_some_iff_append_eq.2 rfl, Option.bind_some, if_pos sought]

theorem seeks_iff (plain : Glob.isPattern name = false) {last : Text} :
    seeks name last = true ↔ name ≠ [] ∧ last = name := by
  have single : name ≠ Glob.allFolders := by
    rintro rfl
    exact absurd plain (by decide)
  simp [seeks, nameMatches, plain, single]

/-- What is found for a plain name are the files that have it. -/
theorem mem_hits_iff (plain : Glob.isPattern name = false) :
    (path, place) ∈ library.hits (seeks name) ↔ library.IsNamed name path place := by
  have last_iff (rest : List Text) :
      rest.getLast?.any (seeks name) = true ↔ name ≠ [] ∧ rest.getLast? = some name := by
    cases rest.getLast? with
    | none => simp
    | some last => simp [seeks_iff plain]
  rw [hits, List.mem_flatMap]
  constructor
  · rintro ⟨folder, member, found⟩
    obtain ⟨top, rest, there, same, listed, sought, leads⟩ := mem_below_iff.1 found
    obtain ⟨located, inside⟩ := top?_eq_some_iff.1 there
    obtain ⟨contents, file⟩ := exists_file_iff.2 listed
    obtain ⟨named, last⟩ := (last_iff rest).1 sought
    exact ⟨named, folder, member, top, rest, contents, located, inside, same, file, last, leads⟩
  · rintro ⟨named, folder, member, top, rest, contents, located, inside, same, file, last, leads⟩
    exact ⟨folder, member, mem_below_iff.2 ⟨top, rest, top?_eq_some_iff.2 ⟨located, inside⟩, same,
      exists_file_iff.1 ⟨contents, file⟩, (last_iff rest).2 ⟨named, last⟩, leads⟩⟩

theorem isOnly_iff (plain : Glob.isPattern name = false) :
    library.IsOnly name place ↔
      library.hits (seeks name) ≠ [] ∧ ∀ hit ∈ library.hits (seeks name), hit.2 = place := by
  constructor
  · rintro ⟨⟨path, named⟩, alone⟩
    refine ⟨List.ne_nil_of_mem ((mem_hits_iff plain).2 named), fun hit member => ?_⟩
    exact alone hit.1 hit.2 ((mem_hits_iff plain).1 member)
  · rintro ⟨found, alone⟩
    obtain ⟨hit, member⟩ := List.exists_mem_of_ne_nil _ found
    refine ⟨⟨hit.1, (mem_hits_iff plain).1 (alone hit member ▸ member)⟩, ?_⟩
    exact fun path other named => alone (path, other) ((mem_hits_iff plain).2 named)

/-! ## The answers -/

theorem isDirect_of_findDirect (found : library.findDirect relative = .ok (some path)) :
    library.IsDirect relative path ∧ ¬library.Misses relative library.folders := by
  obtain ⟨before, folder, after, cut, misses, here, rfl⟩ := findDirect_go_eq_some_iff.1 found
  refine ⟨⟨before, folder, after, cut, fun earlier member => ?_, here, rfl⟩, fun missed => ?_⟩
  · simp [misses earlier member]
  · have member : folder ∈ library.folders := cut ▸ List.mem_append_right before List.mem_cons_self
    simp [missed folder member] at here

/-- The answer for a plain name is the one that is asked for, unless there is only one file with the
name and it is found more than once. -/
theorem answers_iff (plain : Glob.isPattern (Path.ofText relative).name = false)
    {answer : Option Path} (answered : (library.findPath relative).result = .ok answer) :
    library.Answers relative answer ↔
      ¬(library.Misses relative library.folders ∧
        1 < (library.hits (seeks (Path.ofText relative).name)).length ∧
        ∃ place, library.IsOnly (Path.ofText relative).name place) := by
  rcases (findPath_result library relative answer).1 answered with
    ⟨path, rfl, found⟩ | ⟨missed, -, rfl⟩
  · obtain ⟨direct, hit⟩ := isDirect_of_findDirect found
    exact iff_of_true (.inl direct) fun none => hit none.1
  · have misses : library.Misses relative library.folders := findDirect_go_eq_none_iff.1 missed
    have noDirect : ∀ folder ∈ library.folders,
        library.tree.isFile (folder.extend relative) ≠ .ok true := by
      intro folder member
      simp [misses folder member]
    cases found : library.hits (seeks (Path.ofText relative).name) with
    | nil =>
      refine iff_of_true ⟨noDirect, fun place only => ?_⟩ fun twice => ?_
      · exact ((isOnly_iff plain).1 only).1 found
      · exact absurd twice.2.1 (by simp)
    | cons hit others =>
      cases others with
      | nil =>
        have named := (mem_hits_iff plain).1 (found ▸ List.mem_cons_self : hit ∈ library.hits _)
        refine iff_of_true (.inr ⟨noDirect, hit.2, named, (isOnly_iff plain).2 ?_⟩) fun twice => ?_
        · simp [found]
        · exact absurd twice.2.1 (by simp)
      | cons second rest =>
        constructor
        · rintro ⟨-, none⟩ ⟨-, -, place, only⟩
          exact none place only
        · intro once
          exact ⟨noDirect, fun place only => once ⟨misses, by simp, place, only⟩⟩

/-! ## Searches that nothing stands in the way of -/

/-- A plain name that is not too long, looked for in search folders that are not refused either, of
which none is the same as another one or below it. -/
structure IsClear (library : Library) (relative : Text) : Prop where
  plain : Glob.isPattern (Path.ofText relative).name = false
  short : (Utf8.encode (Path.ofText relative).name).length ≤ FileTree.longestName
  tried : ∀ folder ∈ library.folders, ∃ found,
    library.tree.isFile (folder.extend relative) = .ok found
  searched : ∀ folder ∈ library.folders, ∃ found, library.tree.isFolder folder = .ok found
  /-- Every file is listed once. -/
  once : (library.tree.files.map (·.1)).Nodup
  apart : library.folders.Pairwise fun folder other => ∀ top otherTop,
    library.tree.locate folder = .ok top → library.tree.locate other = .ok otherTop →
      ¬top <+: otherTop ∧ ¬otherTop <+: top

/-- No place is found twice below a search folder. -/
theorem nodup_below (once : (library.tree.files.map (·.1)).Nodup) (wanted : Text → Bool)
    (folder : Path) : ((library.below wanted folder).map (·.2)).Nodup := by
  cases there : library.top? folder with
  | none => simp [below_of_missing there]
  | some top =>
    rw [below, there, Option.toList_some, List.flatMap_singleton, List.Nodup, List.pairwise_map,
      List.pairwise_filterMap]
    refine (List.pairwise_map.1 once).imp ?_
    rintro ⟨place, _⟩ ⟨other, _⟩ different hit found hitToo foundToo
    obtain ⟨rest, -, found⟩ := Option.bind_eq_some_iff.1 found
    obtain ⟨restToo, -, foundToo⟩ := Option.bind_eq_some_iff.1 foundToo
    obtain ⟨-, same⟩ := Option.ite_none_right_eq_some.1 found
    obtain ⟨-, sameToo⟩ := Option.ite_none_right_eq_some.1 foundToo
    cases same
    cases sameToo
    exact different

theorem prefix_of_mem_below {wanted : Text → Bool} {hit : Path × Place}
    (member : hit ∈ library.below wanted folder) :
    ∃ top, library.tree.locate folder = .ok top ∧ top <+: hit.2 := by
  obtain ⟨top, rest, there, same, -⟩ := mem_below_iff.1 member
  exact ⟨top, (top?_eq_some_iff.1 there).1, rest, same.symm⟩

theorem nodup_hits (clear : library.IsClear relative) (wanted : Text → Bool) :
    ((library.hits wanted).map (·.2)).Nodup := by
  rw [hits, List.map_flatMap, List.nodup_flatMap]
  refine ⟨fun folder _ => nodup_below clear.once wanted folder, ?_⟩
  refine clear.apart.imp fun {folder other} apart place member memberToo => ?_
  obtain ⟨hit, found, rfl⟩ := List.mem_map.1 member
  obtain ⟨hitToo, foundToo, same⟩ := List.mem_map.1 memberToo
  obtain ⟨top, located, above⟩ := prefix_of_mem_below found
  obtain ⟨otherTop, locatedToo, aboveToo⟩ := prefix_of_mem_below foundToo
  obtain ⟨notAbove, notBelow⟩ := apart top otherTop located locatedToo
  -- Of two folders on the way to one place, one is above the other.
  rw [same] at aboveToo
  rcases List.prefix_or_prefix_of_prefix above aboveToo with isAbove | isBelow
  · exact notAbove isAbove
  · exact notBelow isBelow

theorem hasStrayDoubleStar_of_plain (plain : Glob.isPattern name = false) :
    Glob.hasStrayDoubleStar name = false := by
  have starless : '*' ∉ name := by
    intro member
    have wild : Glob.isPattern name = true := List.any_eq_true.2 ⟨'*', member, rfl⟩
    exact Bool.false_ne_true (plain ▸ wild)
  rw [Glob.hasStrayDoubleStar, Glob.allFolders, Text.cutAt_of_notMem _ starless]
  simp

theorem searchable_of_isClear (clear : library.IsClear relative) (member : folder ∈ library.folders) :
    library.Searchable (Path.ofText relative).name folder := by
  have allowed : ¬IsRefused (Path.ofText relative).name := by
    rintro (stray | ⟨-, long⟩)
    · exact absurd stray (by rw [hasStrayDoubleStar_of_plain clear.plain]; exact Bool.false_ne_true)
    · exact absurd clear.short (not_le.2 long)
  obtain ⟨found, answered⟩ := clear.searched folder member
  cases found with
  | false => exact .inl answered
  | true => exact .inr ⟨answered, allowed⟩

theorem exists_answer_of_isClear (clear : library.IsClear relative) :
    ∃ answer, (library.findPath relative).result = .ok answer := by
  obtain ⟨direct, found⟩ := exists_findDirect_go clear.tried
  cases direct with
  | some path => exact ⟨some path, (findPath_result library relative _).2 (.inl ⟨path, rfl, found⟩)⟩
  | none =>
    exact ⟨_, (findPath_result library relative _).2
      (.inr ⟨found, fun folder member => searchable_of_isClear clear member, rfl⟩)⟩

/-- If nothing stands in the way, there is an answer, and it is the one that is asked for. -/
theorem answers_of_isClear (clear : library.IsClear relative) :
    ∃ answer, (library.findPath relative).result = .ok answer ∧
      library.Answers relative answer := by
  obtain ⟨answer, answered⟩ := exists_answer_of_isClear clear
  refine ⟨answer, answered, (answers_iff clear.plain answered).2 ?_⟩
  rintro ⟨-, twice, place, only⟩
  -- Nothing is found twice, so a file that is the only one is found once.
  have same : ((library.hits (seeks (Path.ofText relative).name)).map (·.2)) =
      List.replicate (library.hits (seeks (Path.ofText relative).name)).length place := by
    rw [List.eq_replicate_iff, List.length_map, List.forall_mem_map]
    exact ⟨rfl, ((isOnly_iff clear.plain).1 only).2⟩
  have once := nodup_hits clear (seeks (Path.ofText relative).name)
  rw [same, List.nodup_replicate] at once
  omega

/-- Which file is found.  The first direct path to a file is taken, unless a path in front of it is
refused.  If there is none, a path is taken if it is the only one that is found below the search
folders, one after the other; and nothing if none is found, or more than one, or one more than once.
For a plain name this is the answer that is asked for, unless there is only one file with the name
and it is found more than once; so it is the answer if nothing stands in the way. -/
theorem findPath_answers (library : Library) (relative : Text) :
    (∀ path, (library.findPath relative).result = .ok (some path) ↔
      (∃ before folder after, library.folders = before ++ folder :: after ∧
        library.Misses relative before ∧
        library.tree.isFile (folder.extend relative) = .ok true ∧
        path = folder.extend relative) ∨
      library.Misses relative library.folders ∧
        (∀ folder ∈ library.folders, library.Searchable (Path.ofText relative).name folder) ∧
        ∃ place, library.hits (seeks (Path.ofText relative).name) = [(path, place)]) ∧
      ((library.findPath relative).result = .ok none ↔
        library.Misses relative library.folders ∧
          (∀ folder ∈ library.folders, library.Searchable (Path.ofText relative).name folder) ∧
          (library.hits (seeks (Path.ofText relative).name)).length ≠ 1) ∧
      (∀ answer, Glob.isPattern (Path.ofText relative).name = false →
        (library.findPath relative).result = .ok answer →
        (library.Answers relative answer ↔
          ¬(library.Misses relative library.folders ∧
            1 < (library.hits (seeks (Path.ofText relative).name)).length ∧
            ∃ place, library.IsOnly (Path.ofText relative).name place))) ∧
      (library.IsClear relative → ∃ answer, (library.findPath relative).result = .ok answer ∧
        library.Answers relative answer) := by
  refine ⟨?found, ?nothing, ?plain, answers_of_isClear⟩
  case found =>
    intro path
    rw [findPath_result, ← only?_eq_some_iff, ← findDirect_go_eq_some_iff,
      ← findDirect_go_eq_none_iff]
    simp [findDirect, eq_comm]
  case nothing =>
    rw [findPath_result, ← findDirect_go_eq_none_iff, ← List.length_map (·.1),
      ← only?_eq_none_iff]
    simp [findDirect, eq_comm]
  case plain =>
    intro answer plain answered
    exact answers_iff plain answered

/-- A library with one file, which stands in a folder of the folder `d`, and another folder `e`. -/
def nested (name : Text) (folders : List Path) : Library where
  tree := {
    files := [([['d'], ['s'], name], [])]
    folders := [[['d']], [['d'], ['s']], [['e']]] }
  folders := folders

/-- A file that is not there directly is found in one of two search folders. -/
theorem findPath_answers_below :
    (nested ['F'] [⟨[], [['e']]⟩, ⟨[], [['d']]⟩]).IsClear ['F'] ∧
      ((nested ['F'] [⟨[], [['e']]⟩, ⟨[], [['d']]⟩]).findPath ['F']).result =
        .ok (some ⟨[], [['d'], ['s'], ['F']]⟩) ∧
      (nested ['F'] [⟨[], [['e']]⟩, ⟨[], [['d']]⟩]).Answers ['F']
        (some ⟨[], [['d'], ['s'], ['F']]⟩) := by
  have clear : (nested ['F'] [⟨[], [['e']]⟩, ⟨[], [['d']]⟩]).IsClear ['F'] := {
    plain := by decide
    short := by decide
    tried := by
      rintro folder member
      refine ⟨false, ?_⟩
      fin_cases member <;> decide
    searched := by
      rintro folder member
      refine ⟨true, ?_⟩
      fin_cases member <;> decide
    once := by decide
    apart := by
      refine List.pairwise_pair.2 fun top otherTop located locatedToo => ?_
      cases located
      cases locatedToo
      decide }
  obtain ⟨found_iff, -, -, answers⟩ :=
    findPath_answers (nested ['F'] [⟨[], [['e']]⟩, ⟨[], [['d']]⟩]) ['F']
  obtain ⟨answer, answered, right⟩ := answers clear
  have found : ((nested ['F'] [⟨[], [['e']]⟩, ⟨[], [['d']]⟩]).findPath ['F']).result =
      .ok (some ⟨[], [['d'], ['s'], ['F']]⟩) := by decide +kernel
  rw [found] at answered
  cases answered
  exact ⟨clear, found, right⟩

theorem isOnly_nested {folders : List Path} (named : name ≠ [])
    (member : ⟨[], [['d']]⟩ ∈ folders) : (nested name folders).IsOnly name [['d'], ['s'], name] := by
  have listed : (nested name folders).tree.entry? [['d'], ['s'], name] = some (.file []) := by
    simp [nested, FileTree.entry?]
  refine ⟨⟨⟨[], [['d'], ['s'], name]⟩, named, ⟨[], [['d']]⟩, member, [['d']], [['s'], name], [], rfl,
    rfl, rfl, listed, rfl, rfl⟩, fun path other namedToo => ?_⟩
  -- There is only one file at all.
  obtain ⟨-, -, -, -, -, contents, -, -, -, listedToo, -⟩ := namedToo
  simpa [nested] using exists_file_iff.1 ⟨contents, listedToo⟩

/-- A file is not found if it is below two search folders, and neither if its name has brackets,
although it is the only one with its name. -/
theorem findPath_not_answers :
    ((nested ['F'] [⟨[], []⟩, ⟨[], [['d']]⟩]).findPath ['F']).result = .ok none ∧
      ¬(nested ['F'] [⟨[], []⟩, ⟨[], [['d']]⟩]).Answers ['F'] none ∧
      ((nested ['[', 'F', ']'] [⟨[], [['d']]⟩]).findPath ['[', 'F', ']']).result = .ok none ∧
      ¬(nested ['[', 'F', ']'] [⟨[], [['d']]⟩]).Answers ['[', 'F', ']'] none := by
  refine ⟨by decide +kernel, fun answers => ?_, by decide +kernel, fun answers => ?_⟩
  · exact answers.2 _ (isOnly_nested (by decide) (by decide))
  · exact answers.2 _ (isOnly_nested (by decide) (by decide))

end SnippetMarkup.Library
