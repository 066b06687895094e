import Mathlib
import SnippetMarkup.Files.Tree
import SnippetMarkup.Proofs.Lookup

/-!
# Trees that change

Making folders leaves all files as they are, and every path leads where it led before.  Writing to a
path leaves all files but one as they are, and the path leads to that file afterwards.
-/

namespace SnippetMarkup

/-- Whether a path is not refused as a whole, whatever the files are. -/
def Path.IsProper (path : Path) : Prop :=
  ¬path.toText.contains '\x00' = true ∧
    ¬FileTree.longestPath ≤ (Utf8.encode path.toText).length

namespace FileTree

variable {tree later : FileTree} {path : Path} {place next : Place} {name : Text}
  {contents : Bytes}

/-! ## Where paths lead -/

/-- A name leads up from a folder, or to what stands in it. -/
theorem enter_eq_ok_iff :
    tree.enter place name = .ok next ↔
      tree.entry? place = some .folder ∧
        (name = ['.', '.'] ∧ place.dropLast = next ∨
          name ≠ ['.', '.'] ∧ (Utf8.encode name).length ≤ longestName ∧
            (tree.entry? (place ++ [name])).isSome ∧ place ++ [name] = next) := by
  unfold enter
  by_cases inside : tree.entry? place = some .folder
  · by_cases upwards : name = ['.', '.']
    · simp [inside, upwards]
    · by_cases long : longestName < (Utf8.encode name).length
      · simp [inside, upwards, long]
      · cases tree.entry? (place ++ [name]) <;>
          simp [inside, upwards, long, not_lt.1 long]
  · simp [inside]

theorem of_enter_eq_notFound (missing : tree.enter place name = .error .notFound) :
    name ≠ ['.', '.'] ∧ (Utf8.encode name).length ≤ longestName := by
  unfold enter at missing
  by_cases inside : tree.entry? place = some .folder
  · by_cases upwards : name = ['.', '.']
    · simp [inside, upwards] at missing
    · by_cases long : longestName < (Utf8.encode name).length
      · simp [inside, upwards, long] at missing
      · exact ⟨upwards, not_lt.1 long⟩
  · simp [inside] at missing

/-- A path is followed name by name, unless it is refused as a whole. -/
theorem locate_eq_foldlM (proper : path.IsProper) (tree : FileTree) :
    tree.locate path = path.names.foldlM tree.enter (tree.origin path) := by
  unfold locate
  rw [if_neg proper.1, if_neg proper.2]

theorem isProper_of_locate {outcome : Except FileFault Place} (leads : tree.locate path = outcome)
    (noNul : outcome ≠ .error .nul) (short : outcome ≠ .error .nameTooLong) : path.IsProper := by
  unfold locate at leads
  split at leads
  · exact (noNul leads.symm).elim
  · next proper =>
    split at leads
    · exact (short leads.symm).elim
    · next fits => exact ⟨proper, fits⟩

theorem isFile_eq_true_iff :
    tree.isFile path = .ok true ↔
      ∃ place contents, tree.locate path = .ok place ∧
        tree.entry? place = some (.file contents) := by
  unfold isFile look
  rcases tree.locate path with fault | place
  · cases fault <;> simp [Except.map]
  · rcases found : tree.entry? place with _ | contents | _ <;> simp [Except.map, found]

theorem read_eq_ok_iff :
    tree.read path = .ok contents ↔
      ∃ place, tree.locate path = .ok place ∧ tree.entry? place = some (.file contents) := by
  unfold read
  rcases tree.locate path with fault | place
  · simp
  · rcases found : tree.entry? place with _ | contents | _ <;> simp [found]

/-! ## Paths in a changed tree -/

/-- What stands at a place still stands there later: folders as folders, and files as files, maybe
with other contents. -/
structure Keeps (tree later : FileTree) : Prop where
  current : later.current = tree.current
  folder : ∀ place, tree.entry? place = some .folder → later.entry? place = some .folder
  there : ∀ place, (tree.entry? place).isSome → (later.entry? place).isSome

namespace Keeps

variable (keeps : Keeps tree later)
include keeps

theorem enter (enters : tree.enter place name = .ok next) :
    later.enter place name = .ok next := by
  rw [enter_eq_ok_iff] at enters ⊢
  obtain ⟨inside, upwards | ⟨onwards, short, found, same⟩⟩ := enters
  · exact ⟨keeps.folder place inside, .inl upwards⟩
  · exact ⟨keeps.folder place inside, .inr ⟨onwards, short, keeps.there _ found, same⟩⟩

theorem foldlM_enter {names : List Text} (enters : names.foldlM tree.enter place = .ok next) :
    names.foldlM later.enter place = .ok next := by
  induction names generalizing place with
  | nil => exact enters
  | cons name rest ih =>
    rw [List.foldlM_cons] at enters ⊢
    cases entered : tree.enter place name with
    | error fault => simp [entered, bind, Except.bind] at enters
    | ok middle =>
      -- The first name leads where it led before, and the others are followed from there.
      rw [entered] at enters
      rw [keeps.enter entered]
      exact ih enters

theorem origin (path : Path) : later.origin path = tree.origin path := by
  unfold FileTree.origin
  rw [keeps.current]

theorem locate (found : tree.locate path = .ok place) : later.locate path = .ok place := by
  have proper := isProper_of_locate found (by simp) (by simp)
  rw [locate_eq_foldlM proper] at found ⊢
  rw [keeps.origin]
  exact keeps.foldlM_enter found

end Keeps

/-! ## Making folders -/

/-- The tree with some more folders. -/
def withFolders (tree : FileTree) (folders : List Place) : FileTree :=
  { tree with folders := tree.folders ++ folders }

theorem withFolders_entry {entry : FileEntry} (found : tree.entry? place = some entry)
    (folders : List Place) :
    entry? (tree.withFolders folders) place = some entry := by
  unfold entry? at found ⊢
  rw [withFolders]
  split at found
  · next listed => simpa [listed] using found
  · next unlisted =>
    obtain ⟨folder, same⟩ := Option.ite_none_right_eq_some.1 found
    rw [unlisted, ← same]
    exact if_pos (folder.imp_right (List.mem_append_left folders))

theorem keeps_withFolders (tree : FileTree) (folders : List Place) :
    Keeps tree (tree.withFolders folders) where
  current := rfl
  folder place found := withFolders_entry found folders
  there place found := by
    obtain ⟨entry, found⟩ := Option.isSome_iff_exists.1 found
    rw [withFolders_entry found folders, Option.isSome_some]

theorem exists_withFolders_of_makeFolder (made : tree.makeFolder path = .ok later) :
    ∃ folders, later = tree.withFolders folders := by
  unfold makeFolder at made
  split at made
  · simp at made
  · cases fresh : tree.newPlace path with
    | error fault => simp [fresh, Except.map] at made
    | ok place =>
      rw [fresh] at made
      exact ⟨_, (Except.ok.inj made).symm⟩
  · simp at made

theorem exists_withFolders_of_acceptFolder {fault : FileFault}
    (accepted : tree.acceptFolder path fault = .ok later) :
    ∃ folders, later = tree.withFolders folders := by
  unfold acceptFolder at accepted
  split at accepted
  · exact ⟨[], by rw [withFolders, List.append_nil, ← Except.ok.inj accepted]⟩
  · simp at accepted

/-- Making folders adds folders to a tree, and changes nothing else. -/
theorem exists_withFolders_of_makeFoldersUpTo {names : Nat}
    (made : tree.makeFoldersUpTo path names = .ok later) :
    ∃ folders, later = tree.withFolders folders := by
  induction names generalizing tree path later with
  | zero => exact ⟨[], by rw [withFolders, List.append_nil, ← Except.ok.inj made]⟩
  | succ names ih =>
    rw [makeFoldersUpTo] at made
    split at made
    · next first => exact exists_withFolders_of_makeFolder (Except.ok.inj made ▸ first)
    · -- The folders above are made first, and then this one, unless it is there by now.
      cases above : tree.makeFoldersUpTo path.parent names with
      | error error => simp [above, bind, Except.bind] at made
      | ok middle =>
        obtain ⟨folders, rfl⟩ := ih above
        rw [above] at made
        have grown (grows : ∃ others, later = (tree.withFolders folders).withFolders others) :
            ∃ folders, later = tree.withFolders folders := by
          obtain ⟨others, rfl⟩ := grows
          exact ⟨folders ++ others, by simp [withFolders]⟩
        dsimp only [bind, Except.bind] at made
        split at made
        · next second =>
          exact grown (exists_withFolders_of_makeFolder (Except.ok.inj made ▸ second))
        · exact grown (exists_withFolders_of_acceptFolder made)
    · exact exists_withFolders_of_acceptFolder made

theorem exists_withFolders_of_makeFolders (made : tree.makeFolders path = .ok later) :
    ∃ folders, later = tree.withFolders folders :=
  exists_withFolders_of_makeFoldersUpTo made

/-- A path to a file leads to the same file when there are more folders. -/
theorem isFile_withFolders (found : tree.isFile path = .ok true) (folders : List Place) :
    (tree.withFolders folders).isFile path = .ok true ∧
      (tree.withFolders folders).read path = tree.read path := by
  obtain ⟨place, contents, located, listed⟩ := isFile_eq_true_iff.1 found
  have locatedToo := (keeps_withFolders tree folders).locate located
  have listedToo := withFolders_entry listed folders
  refine ⟨isFile_eq_true_iff.2 ⟨place, contents, locatedToo, listedToo⟩, ?_⟩
  rw [read_eq_ok_iff.2 ⟨place, located, listed⟩]
  exact read_eq_ok_iff.2 ⟨place, locatedToo, listedToo⟩

/-! ## Writing -/

theorem lookup_addFile (tree : FileTree) (place : Place) (contents : Bytes) (other : Place) :
    (tree.addFile place contents).files.lookup other =
      if other = place then some contents else tree.files.lookup other :=
  lookup_filter_append (fun _ => decide_eq_true_iff) tree.files contents other

theorem addFile_entry_self (tree : FileTree) (place : Place) (contents : Bytes) :
    entry? (tree.addFile place contents) place = some (.file contents) := by
  unfold entry?
  rw [lookup_addFile, if_pos rfl]

theorem addFile_entry_of_ne {other : Place} {entry : FileEntry} (different : other ≠ place)
    (found : tree.entry? other = some entry) :
    entry? (tree.addFile place contents) other = some entry := by
  have grown := withFolders_entry found ((leading place.dropLast).filter
    fun folder => folder ∉ tree.folders)
  unfold entry? at grown ⊢
  rw [lookup_addFile, if_neg different]
  exact grown

theorem keeps_addFile (free : tree.entry? place ≠ some .folder) (contents : Bytes) :
    Keeps tree (tree.addFile place contents) where
  current := rfl
  folder other found := addFile_entry_of_ne (fun same => free (same ▸ found)) found
  there other found := by
    by_cases same : other = place
    · rw [same, addFile_entry_self, Option.isSome_some]
    · obtain ⟨entry, found⟩ := Option.isSome_iff_exists.1 found
      rw [addFile_entry_of_ne same found, Option.isSome_some]

/-- A new place is one in a folder that is there. -/
theorem of_newPlace_eq_ok (fresh : tree.newPlace path = .ok place) :
    ∃ parent, tree.locate path.parent = .ok parent ∧ tree.entry? parent = some .folder ∧
      (Utf8.encode path.name).length ≤ longestName ∧ place = parent ++ [path.name] := by
  unfold newPlace at fresh
  cases located : tree.locate path.parent with
  | error fault => simp [located, bind, Except.bind] at fresh
  | ok parent =>
    by_cases inside : tree.entry? parent = some .folder
    · by_cases long : longestName < (Utf8.encode path.name).length
      · simp [located, inside, long, bind, Except.bind, throw, throwThe, MonadExceptOf.throw] at fresh
      · refine ⟨parent, rfl, inside, not_lt.1 long, ?_⟩
        simpa [located, inside, long, bind, Except.bind, pure, Except.pure, eq_comm] using fresh
    · simp [located, inside, bind, Except.bind, throw, throwThe, MonadExceptOf.throw] at fresh

/-- A path with a name leads from its parent by that name. -/
theorem locate_eq_enter (proper : path.IsProper) (named : path.names ≠ [])
    (above : tree.locate path.parent = .ok place) :
    tree.locate path = tree.enter place path.name := by
  have whole : path.names = path.names.dropLast ++ [path.name] := by
    rw [Path.name, List.getLast?_eq_some_getLast named, Option.getD_some,
      List.dropLast_append_getLast]
  have parent : path.names.dropLast.foldlM tree.enter (tree.origin path) = .ok place := by
    rw [← above]
    exact (locate_eq_foldlM (isProper_of_locate above (by simp) (by simp)) tree).symm
  rw [locate_eq_foldlM proper, whole, List.foldlM_append, parent]
  exact bind_pure (tree.enter place path.name)

/-- The path to a new place leads there once something stands there. -/
theorem locate_of_newPlace (missing : tree.locate path = .error .notFound)
    (fresh : tree.newPlace path = .ok place) (keeps : Keeps tree later)
    (there : (later.entry? place).isSome) : later.locate path = .ok place := by
  obtain ⟨parent, above, inside, short, rfl⟩ := of_newPlace_eq_ok fresh
  have proper : path.IsProper := isProper_of_locate missing (by simp) (by simp)
  -- A path without a name would have been found.
  have named : path.names ≠ [] := by
    intro nameless
    rw [locate_eq_foldlM proper, nameless] at missing
    simp [pure, Except.pure] at missing
  have onwards : path.name ≠ ['.', '.'] := by
    rw [locate_eq_enter proper named above] at missing
    exact (of_enter_eq_notFound missing).1
  rw [locate_eq_enter proper named (keeps.locate above)]
  exact enter_eq_ok_iff.2 ⟨keeps.folder parent inside, .inr ⟨onwards, short, there, rfl⟩⟩

/-- Writing to a path makes or changes the file to which the path leads afterwards, and no other
one. -/
theorem of_write_eq_ok (written : tree.write path contents = .ok later) :
    ∃ place, later.locate path = .ok place ∧ later.read path = .ok contents ∧
      ∀ other, later.files.lookup other =
        if other = place then some contents else tree.files.lookup other := by
  -- Whether the file is new or not, what is left to show is that the path leads to it.
  have put {place : Place} (leads : tree.entry? place ≠ some .folder →
        (tree.addFile place contents).locate path = .ok place)
      (made : (if tree.entry? place = some .folder then .error ⟨.isFolder, path⟩
        else .ok (tree.addFile place contents)) = Except.ok (ε := FileError) later) :
      ∃ place, later.locate path = .ok place ∧ later.read path = .ok contents ∧
        ∀ other, later.files.lookup other =
          if other = place then some contents else tree.files.lookup other := by
    by_cases free : tree.entry? place = some .folder
    · simp [free] at made
    · rw [if_neg free] at made
      obtain rfl := Except.ok.inj made
      exact ⟨place, leads free, read_eq_ok_iff.2 ⟨place, leads free, addFile_entry_self ..⟩,
        lookup_addFile tree place contents⟩
  unfold write at written
  cases located : tree.locate path with
  | ok place =>
    rw [located] at written
    exact put (fun free => (keeps_addFile free contents).locate located) written
  | error fault =>
    cases fault with
    | notFound =>
      cases fresh : tree.newPlace path with
      | error fault => simp [located, fresh] at written
      | ok place =>
        rw [located] at written
        dsimp only at written
        rw [fresh] at written
        exact put (fun free => locate_of_newPlace located fresh (keeps_addFile free contents)
          (by rw [addFile_entry_self, Option.isSome_some])) written
    | _ => simp [located] at written

end FileTree

end SnippetMarkup
