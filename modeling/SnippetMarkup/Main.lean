import SnippetMarkup.Run.Command
import SnippetMarkup.Program.Environment
import SnippetMarkup.Program.Toolkit

/-!
# The program

Reads the environment, the arguments and the files that they name, does what is asked for on them,
and writes what has changed.
-/

namespace SnippetMarkup.Program

/-- A text as the system takes it. -/
def plain (text : Text) : String := String.ofList text

def readVariables : IO (List (Text × Text)) := do
  try
    let bytes ← IO.FS.readBinFile "/proc/self/environ"
    let written := (String.fromUTF8? bytes).getD ""
    return (written.splitOn "\x00").filterMap fun entry => Text.splitFirst? '=' entry.toList
  catch _ => return []

/-- The settings file in the current folder; empty if there is none. -/
def readDotenv : IO Text := do
  try
    return (← IO.FS.readFile ".env").toList
  catch _ => return []

/-- Adds what stands at a path: a file, or a folder with all that is below it. -/
partial def load (tree : FileTree) (path : String) (place : Place) : IO FileTree := do
  try
    let real ← IO.FS.realPath path
    if ← real.isDir then
      let mut tree := tree.addFolder place
      for entry in ← real.readDir do
        tree ← load tree (path ++ "/" ++ entry.fileName) (place ++ [entry.fileName.toList])
      return tree
    else if ← real.pathExists then
      return tree.addFile place (← IO.FS.readBinFile path).toList
    else return tree
  catch _ => return tree

/-- The place that a path means when no folder on its way is missing. -/
def placeOf (current : Place) (path : Path) : Place :=
  path.names.foldl (fun place name => if name = ['.', '.'] then place.dropLast else place ++ [name])
    (if path.root = [] then current else [])

def loadAll (options : RunOptions) : IO FileTree := do
  let current := (Path.ofText (← IO.currentDir).toString.toList).names
  let paths :=
    [options.inputFolder, options.inputFolder.extend options.inputFile, options.outputFolder] ++
      (options.targets.map options.inputFolder.extend).toList ++
      (options.outputFile.map options.outputFolder.extend).toList
  let start := ({ current := current } : FileTree).addFolder current
  paths.foldlM (fun tree path => load tree (plain path.toText) (placeOf current path)) start

def save (before after : FileTree) : IO Unit := do
  let written (place : Place) : String := plain ('/' :: List.intercalate ['/'] place)
  for folder in after.folders do
    if !before.folders.contains folder then IO.FS.createDirAll (written folder)
  for (place, contents) in after.files do
    if before.files.lookup place ≠ some contents then
      IO.FS.writeBinFile (written place) (ByteArray.mk contents.toArray)

def logLine (level : LogLevel) (message : Text) : String :=
  let name := match level with
    | .debug => "DEBUG"
    | .warning => "WARNING"
    | .error => "ERROR"
  name ++ " | " ++ plain message

/-- Does what the arguments ask for, and gives the exit code. -/
def run (arguments : List Text) : IO UInt32 := do
  match Settings.ofEnvironment (← readVariables) (← readDotenv) with
  | .error faults =>
    for fault in faults do
      match fault with
      | .noTruthValue name => IO.eprintln (plain name.written ++ ": not a truth value")
      | .unknown name => IO.eprintln (plain name ++ ": not a setting")
    return 1
  | .ok settings =>
    let (tree, verbosity) ←
      match CommandLine.read arguments with
      | .ok (.run options) => do pure (← loadAll options, options.verbosity)
      | _ => pure (({} : FileTree), 1)
    let record := Command.run .standard settings arguments tree
    save tree record.tree
    for (level, message) in
        record.journal.log verbosity fun problem => settings.message problem.message do
      IO.eprintln (logLine level message)
    IO.print (plain record.output)
    IO.eprint (plain record.complaints)
    match record.result with
    | .ok code => return (code.getD 0).toUInt32
    | .error failure =>
      IO.eprintln (plain failure.message)
      return 1

end SnippetMarkup.Program

def main (arguments : List String) : IO UInt32 :=
  SnippetMarkup.Program.run (arguments.map String.toList)
