import SnippetMarkup.Run.Help
import SnippetMarkup.Run.Pipeline

/-!
# The command

What the command does with its arguments, on the files that it finds.
-/

namespace SnippetMarkup

structure CommandRecord where
  tree : FileTree
  journal : Journal Problem := []
  /-- What it has written for its user. -/
  output : Text := []
  complaints : Text := []
  /-- Its exit code; none if it came to its end. -/
  result : Except Failure (Option Nat)

namespace Command

/-- The exit code of a command line that cannot be understood. -/
def usageCode : Nat := 2

/-- The record of a run as one of the command. -/
def ofRun (record : RunRecord) : CommandRecord :=
  match record.ending with
  | .complete => { tree := record.tree, journal := record.journal, result := .ok none }
  | .quit complaint =>
    { tree := record.tree
      journal := record.journal
      complaints := complaint ++ ['\n']
      result := .ok (some 1) }
  | .failed failure =>
    { tree := record.tree, journal := record.journal, result := .error failure }

/-- The first of some paths that does not lead to a folder. -/
def findNoFolder (tree : FileTree) : List Path → Except FileError (Option Path)
  | [] => .ok none
  | path :: rest => do
    if ← tree.isFolder path then findNoFolder tree rest else return some path

/-- Goes through all stages, after making the output folder. -/
def runOptions (toolkit : Toolkit) (settings : Settings) (options : RunOptions)
    (tree : FileTree) : CommandRecord :=
  -- The output folder is made before the folders are checked.
  match tree.makeFolders options.outputFolder with
  | .error error => { tree := tree, result := .error (.file error) }
  | .ok tree =>
    match findNoFolder tree [options.inputFolder, options.outputFolder] with
    | .error error => { tree := tree, result := .error (.file error) }
    | .ok (some path) =>
      { tree := tree
        complaints := "Not a directory: ".toList ++ path.toText ++ ['\n']
        result := .ok (some 1) }
    | .ok none => ofRun (runStages toolkit settings Stage.all { toRunOptions := options } tree)

def run (toolkit : Toolkit) (settings : Settings) (arguments : List Text) (tree : FileTree) :
    CommandRecord :=
  match CommandLine.read arguments with
  | .error fault =>
    { tree := tree
      complaints := CommandLine.usageError fault
      result := .ok (some usageCode) }
  | .ok .help => { tree := tree, output := CommandLine.helpText, result := .ok (some 0) }
  | .ok .version => { tree := tree, output := CommandLine.versionText, result := .ok (some 0) }
  | .ok (.run options) => runOptions toolkit settings options tree

end Command

end SnippetMarkup
