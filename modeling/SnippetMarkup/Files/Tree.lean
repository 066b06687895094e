import SnippetMarkup.Files.Path
import SnippetMarkup.Encoding.Utf8
import SnippetMarkup.Text.Quoted

/-!
# File trees

The files and folders that a run sees, as a value.  A place is the list of the names that lead to
it from the top.  Folders are listed with their parents.
-/

namespace SnippetMarkup

/-! ## Errors -/

inductive FileFault where
  | notFound
  | alreadyThere
  | notFolder
  | isFolder
  | nameTooLong
  | nul
  deriving DecidableEq, Repr

/-- The number and the words that the system has for a fault. -/
def FileFault.description : FileFault → Nat × Text
  | notFound => (2, "No such file or directory".toList)
  | alreadyThere => (17, "File exists".toList)
  | notFolder => (20, "Not a directory".toList)
  | isFolder => (21, "Is a directory".toList)
  | nameTooLong => (36, "File name too long".toList)
  | nul => (0, "embedded null byte".toList)

structure FileError where
  fault : FileFault
  path : Path
  deriving DecidableEq, Repr

def FileError.message (error : FileError) : Text :=
  let (number, words) := error.fault.description
  if error.fault = .nul then words else
  "[Errno ".toList ++ Text.ofNat number ++ [']', ' '] ++ words ++ [':', ' '] ++
    Text.quoted error.path.toText

/-! ## Trees -/

/-- The names that lead to a place from the top. -/
abbrev Place := List Text

/-- Files and folders.  Relative paths lead on from the `current` folder. -/
structure FileTree where
  files : List (Place × Bytes) := []
  folders : List Place := []
  current : Place := []
  deriving DecidableEq, Repr

inductive FileEntry where
  | file (contents : Bytes)
  | folder
  deriving DecidableEq, Repr

namespace FileTree

/-- The longest name that a file may have, in bytes. -/
def longestName : Nat := 255

/-- The length in bytes from which on a path is refused. -/
def longestPath : Nat := 4096

def entry? (tree : FileTree) (place : Place) : Option FileEntry :=
  match tree.files.lookup place with
  | some contents => some (.file contents)
  | none => if place = [] ∨ place ∈ tree.folders then some .folder else none

/-- The place to which a name leads from a folder. -/
def enter (tree : FileTree) (place : Place) (name : Text) : Except FileFault Place :=
  if tree.entry? place ≠ some .folder then .error .notFolder
  else if name = ['.', '.'] then .ok place.dropLast
  else if longestName < (Utf8.encode name).length then .error .nameTooLong
  else if (tree.entry? (place ++ [name])).isNone then .error .notFound
  else .ok (place ++ [name])

def origin (tree : FileTree) (path : Path) : Place :=
  if path.root = [] then tree.current else []

/-- The place to which a path leads. -/
def locate (tree : FileTree) (path : Path) : Except FileFault Place :=
  if path.toText.contains '\x00' then .error .nul
  else if longestPath ≤ (Utf8.encode path.toText).length then .error .nameTooLong
  else path.names.foldlM tree.enter (tree.origin path)

/-- What stands where a path leads.  A path with a NUL leads nowhere; only a name that is too long
is an error. -/
def look (tree : FileTree) (path : Path) : Except FileError (Option FileEntry) :=
  match tree.locate path with
  | .ok place => .ok (tree.entry? place)
  | .error .nameTooLong => .error ⟨.nameTooLong, path⟩
  | .error _ => .ok none

/-- Whether a path leads to a file. -/
def isFile (tree : FileTree) (path : Path) : Except FileError Bool :=
  (tree.look path).map fun
    | some (.file _) => true
    | _ => false

/-- Whether a path leads to a folder. -/
def isFolder (tree : FileTree) (path : Path) : Except FileError Bool :=
  (tree.look path).map fun found => found == some .folder

/-- The contents of the file to which a path leads. -/
def read (tree : FileTree) (path : Path) : Except FileError Bytes :=
  match tree.locate path with
  | .error fault => .error ⟨fault, path⟩
  | .ok place =>
    match tree.entry? place with
    | some (.file contents) => .ok contents
    | some .folder => .error ⟨.isFolder, path⟩
    | none => .error ⟨.notFound, path⟩

/-- The paths of the files below a place, from that place on. -/
def filesBelow (tree : FileTree) (place : Place) : List (List Text) :=
  tree.files.filterMap fun (other, _) =>
    (place.isPrefixOf? other).bind fun rest => if rest = [] then none else some rest

/-! ## Changes -/

/-- The places that lead to a place, and the place itself, without the top. -/
def leading (place : Place) : List Place :=
  (List.range place.length).map fun n => place.take (n + 1)

/-- The tree with a folder at a place, and with the folders that lead to it. -/
def addFolder (tree : FileTree) (place : Place) : FileTree :=
  let missing := (leading place).filter fun folder => folder ∉ tree.folders
  { tree with folders := tree.folders ++ missing }

/-- The tree with a file at a place, and with the folders that lead to it. -/
def addFile (tree : FileTree) (place : Place) (contents : Bytes) : FileTree :=
  let tree := tree.addFolder place.dropLast
  { tree with files := tree.files.filter (fun (other, _) => other ≠ place) ++ [(place, contents)] }

/-- The place that a path would have if what stands there were made; its folder must be there. -/
def newPlace (tree : FileTree) (path : Path) : Except FileFault Place := do
  let parent ← tree.locate path.parent
  if tree.entry? parent ≠ some .folder then throw .notFolder
  if longestName < (Utf8.encode path.name).length then throw .nameTooLong
  return parent ++ [path.name]

def write (tree : FileTree) (path : Path) (contents : Bytes) : Except FileError FileTree :=
  let place :=
    match tree.locate path with
    -- The file is not there yet, and it is enough that its folder is.
    | .error .notFound => tree.newPlace path
    | other => other
  match place with
  | .error fault => .error ⟨fault, path⟩
  | .ok place =>
    if tree.entry? place = some .folder then .error ⟨.isFolder, path⟩
    else .ok (tree.addFile place contents)

def makeFolder (tree : FileTree) (path : Path) : Except FileFault FileTree :=
  match tree.locate path with
  | .ok _ => .error .alreadyThere
  | .error .notFound => (tree.newPlace path).map tree.addFolder
  | .error fault => .error fault

/-- The tree as it is if a folder could not be made because it is there. -/
def acceptFolder (tree : FileTree) (path : Path) (fault : FileFault) :
    Except FileError FileTree :=
  match tree.isFolder path with
  | .ok true => .ok tree
  | _ => .error ⟨fault, path⟩

/-- Makes a folder and the folders that lead to it, unless they are there, for a path with so many
names. -/
def makeFoldersUpTo (tree : FileTree) (path : Path) : Nat → Except FileError FileTree
  | 0 => .ok tree
  | names + 1 =>
    match tree.makeFolder path with
    | .ok tree => .ok tree
    | .error .notFound => do
      -- The folder above is missing: it is made, and then this one is tried once more.
      let tree ← tree.makeFoldersUpTo path.parent names
      match tree.makeFolder path with
      | .ok tree => return tree
      | .error fault => tree.acceptFolder path fault
    | .error fault => tree.acceptFolder path fault

/-- Makes a folder and the folders that lead to it, unless they are there. -/
def makeFolders (tree : FileTree) (path : Path) : Except FileError FileTree :=
  tree.makeFoldersUpTo path (path.names.length + 1)

end FileTree

end SnippetMarkup
