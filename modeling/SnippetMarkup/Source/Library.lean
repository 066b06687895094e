import SnippetMarkup.Source.Snippet
import SnippetMarkup.Files.Glob
import SnippetMarkup.Report.Reported
import SnippetMarkup.Settings.Basic

/-!
# Looking up snippet files

The file of a snippet is looked for at its relative path in one search folder after the other,
and then by its name anywhere below them.  A name counts only if there is exactly one file that
has it; a file below two search folders counts twice.  The name may be a pattern.
-/

namespace SnippetMarkup

/-- Files, and the folders in which snippet files are looked for. -/
structure Library where
  tree : FileTree
  folders : List Path
  codecs : Codecs := .known

namespace Library

/-! ## Paths -/

/-- The first path to a file that leads on from a search folder as given. -/
def findDirect (library : Library) (relative : Text) : Except Failure (Option Path) :=
  go library.folders
where
  go : List Path → Except Failure (Option Path)
    | [] => .ok none
    | folder :: rest => do
      let candidate := folder.extend relative
      if ← (library.tree.isFile candidate).mapError .file then return some candidate
      go rest

/-- Whether a name is the given one, or one that the given pattern stands for.  Two stars alone
stand for folders, and no file has such a name. -/
def nameMatches (wanted name : Text) : Bool :=
  if wanted = Glob.allFolders then false
  else if Glob.isPattern wanted then Glob.isMatch (Glob.ofText wanted) name
  else name == wanted

/-- The paths of the files with a name below a search folder. -/
def namedBelow (library : Library) (name : Text) (folder : Path) :
    Except Failure (List Path) := do
  if !(← (library.tree.isFolder folder).mapError .file) then return []
  if Glob.hasStrayDoubleStar name then throw .strayDoubleStar
  -- A plain name is looked up in every folder, and the first lookup fails if it is too long.
  if !Glob.isPattern name && FileTree.longestName < (Utf8.encode name).length then
    throw (.file ⟨.nameTooLong, folder.extend name⟩)
  match library.tree.locate folder with
  | .error _ => return []
  | .ok place =>
    return ((library.tree.filesBelow place).filter fun names =>
        name ≠ [] && nameMatches name (names.getLast?.getD [])).map fun names =>
      ⟨folder.root, folder.names ++ names⟩

/-- The note on a name that several files have. -/
def ambiguousNote (name : Text) (candidates : Nat) : Text :=
  "Ambiguous snippet file ".toList ++ name ++ [':', ' '] ++ Text.ofNat candidates ++
    " candidates".toList

/-- The file at a relative path, or else the only one with its name. -/
def findPath (library : Library) (relative : Text) : Reported (Option Path) := do
  match ← Reported.ofExcept (library.findDirect relative) with
  | some path => return some path
  | none =>
    let name := (Path.ofText relative).name
    let found ← Reported.ofExcept (library.folders.mapM (library.namedBelow name))
    match found.flatten with
    | [] => return none
    -- Only a name that is clear is taken.
    | [path] => return some path
    | several =>
      Reported.note 2 (ambiguousNote name several.length)
      return none

/-- The relative path of a class: every full stop in its name leads into a folder. -/
def classPath (settings : Settings) (className : Text) : Text :=
  Text.replaceAll ['.'] ['/'] className ++ settings.classExtension

/-- The last part of a class name that has several. -/
def simpleName? (className : Text) : Option Text :=
  match (Text.cutAt ['.'] className) with
  | [_] => none
  | parts => parts.getLast?

/-- The file that a snippet refers to. -/
def find (library : Library) (settings : Settings) (snippet : Snippet) :
    Reported (Option Path) :=
  match snippet.file, snippet.className with
  | some file, _ => library.findPath file
  | none, some className => do
    match ← library.findPath (classPath settings className), simpleName? className with
    | none, some simple => library.findPath (simple ++ settings.classExtension)
    | path, _ => return path
  | none, none => return none

/-! ## Lines -/

/-- The note on a file that cannot be read. -/
def unreadableNote (path : Path) (reason : Text) : Text :=
  "Cannot read snippet file ".toList ++ path.toText ++ [':', ' '] ++ reason

/-- The note on a file that was found. -/
def resolvedNote (path : Path) : Text := "Resolved external snippet ".toList ++ path.toText

/-- The text of a file, or why it cannot be read. -/
def readText (library : Library) (settings : Settings) (path : Path) :
    Except Failure (Except Text Text) :=
  match library.tree.read path with
  | .error error => .ok (.error error.message)
  | .ok bytes =>
    match library.codecs settings.fileEncoding with
    | none => .error (.unknownEncoding settings.fileEncoding)
    | some decode =>
      match decode bytes with
      | .ok text => .ok (.ok (Text.unifyLineEnds text))
      | .error (.undecodable error) => .ok (.error error.message)
      | .error (.unmarked name) => .error (.unmarkedFile name)

/-- The lines of the file that a snippet refers to. -/
def resolve (library : Library) (settings : Settings) (snippet : Snippet) :
    Reported (Option SnippetSource) := do
  match ← library.find settings snippet with
  | none => return none
  | some path =>
    match ← Reported.ofExcept (library.readText settings path) with
    | .error reason =>
      Reported.note 1 (unreadableNote path reason)
      return none
    | .ok text =>
      Reported.note 2 (resolvedNote path)
      return some ⟨Text.fileLines text, path.toText, snippet.region⟩

end Library

end SnippetMarkup
