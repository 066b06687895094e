import SnippetMarkup.Run.State
import SnippetMarkup.Run.Toolkit
import SnippetMarkup.Snippet.Converter
import SnippetMarkup.Reference.TargetsFile
import SnippetMarkup.Preview.Lexer

/-!
# The stages of a run

A run goes through five stages.  A stage goes on to the next one, ends the run with a complaint, or
fails.  Only the last but one writes a file.
-/

namespace SnippetMarkup

inductive Stage where
  | check
  | read
  | convert
  | write
  | report
  deriving DecidableEq, Repr

/-- How a stage ends, unless it fails. -/
inductive StageEnd where
  /-- The run goes on with this state and these files. -/
  | next (state : RunState) (tree : FileTree)
  /-- The run ends with a complaint, and the files stay as they are. -/
  | quit (complaint : Text)
  deriving DecidableEq, Repr

namespace Stage

def all : List Stage := [check, read, convert, write, report]

def banner : Text :=
  ("\n             _                            _\n" ++
   "   ___ _ __ (_)_ __  _ __ ___   __ _ _ __| | __\n" ++
   "  / __| '_ \\| | '_ \\| '_ ` _ \\ / _` | '__| |/ /\n" ++
   "  \\__ \\ | | | | |_) | | | | | | (_| | |  |   <\n" ++
   "  |___/_| |_|_| .__/|_| |_| |_|\\__,_|_|  |_|\\_\\\n" ++
   "              |_|\n" ++
   "  Snippet markup processor\n").toList

def complain (words : String) (what : Text) : StageEnd :=
  .quit (words.toList ++ what)

/-- The path of the target file if one is given; none in it if it is not there. -/
def findTargets (state : RunState) (tree : FileTree) :
    Except Failure (Option (Path × Bool)) :=
  match state.targets.getD [] with
  | [] => .ok none
  | name => do
    let path := state.inputFolder.extend name
    return some (path, ← (tree.isFile path).mapError .file)

/-- Makes the output folder and settles the name of the output file. -/
def prepareOutput (state : RunState) (tree : FileTree) : Reported StageEnd := do
  let tree ← Reported.ofExcept ((tree.makeFolders state.outputFolder).mapError .file)
  let outputPath := state.outputFolder.extend state.outputName
  Reported.note 2 ("Output file: ".toList ++ outputPath.toText)
  return .next { state with outputPath := outputPath, isChecked := true } tree

def runCheck (state : RunState) (tree : FileTree) : Reported StageEnd := do
  Reported.note 2 banner
  Reported.note 2 "Checking environment...".toList
  let inputPath := state.inputFolder.extend state.inputFile
  if !(← Reported.ofExcept ((tree.isFile inputPath).mapError .file)) then
    return complain "Error: Input file not found: " inputPath.toText
  let state := { state with inputPath := inputPath }
  Reported.note 2 ("Input file: ".toList ++ inputPath.toText)
  match ← Reported.ofExcept (findTargets state tree) with
  | none => prepareOutput state tree
  | some (path, false) => return complain "Error: Targets file not found: " path.toText
  | some (path, true) =>
    Reported.note 2 ("Targets file: ".toList ++ path.toText)
    prepareOutput { state with targetsPath := some path } tree

/-- The note on the lines that were read. -/
def readNote (lines : Nat) (name : Text) : Text :=
  "Read ".toList ++ Text.ofNat lines ++ " lines from ".toList ++ name

/-- Some lines of annotated source as they are shown. -/
def preview (toolkit : Toolkit) (lines : List Text) : Text :=
  toolkit.highlight Token.lex (Text.joinLines lines ++ ['\n'])

def runRead (toolkit : Toolkit) (settings : Settings) (state : RunState) (tree : FileTree) :
    Reported StageEnd := do
  Reported.note 1 "Reading snippet file...".toList
  let library : Library := ⟨tree, [state.inputFolder], toolkit.codecs⟩
  let snippet : Snippet := { file := some state.inputFile, region := state.region }
  match ← library.resolve settings snippet with
  | none => return complain "Error reading snippet file: " state.inputPath.toText
  | some source =>
    Reported.note 2 (readNote source.lines.length state.inputPath.name)
    Reported.note 3 ("Source preview:\n".toList ++ preview toolkit source.lines)
    return .next { state with source := some source } tree

def convertedNote (warnings errors : Nat) : Text :=
  "Conversion complete: ".toList ++ Text.ofNat warnings ++ " warnings, ".toList ++
    Text.ofNat errors ++ " errors".toList

/-- The converter for lines that have been read. -/
def converter (toolkit : Toolkit) (settings : Settings) (targets : Option Targets) :
    Converter where
  settings := settings
  targets := targets
  characters := toolkit.characters

/-- Converts the lines that were read with the given targets. -/
def convertSource (toolkit : Toolkit) (settings : Settings) (targets : Option Targets)
    (state : RunState) (tree : FileTree) : Reported StageEnd :=
  match state.source with
  | none => .fail .noSource
  | some source =>
    let converter := converter toolkit settings targets
    let parsed := converter.parseSource source {}
    let warnings := parsed.journal.warnings.map fun problem => settings.message problem.message
    let errors := parsed.journal.errors.map fun problem => settings.message problem.message
    do
      let (body, _) ← parsed
      Reported.note 2 (convertedNote warnings.length errors.length)
      return .next
        { state with
          html := some (converter.element state.snippet body)
          warnings := warnings
          errors := errors } tree

def runConvert (toolkit : Toolkit) (settings : Settings) (state : RunState) (tree : FileTree) :
    Reported StageEnd := do
  Reported.note 1 "Processing snippet markup...".toList
  match state.targetsPath with
  | none => convertSource toolkit settings none state tree
  | some path =>
    match Targets.load toolkit.loader tree path false with
    -- A file that gives no targets ends the run; whatever else stops its loader makes it fail.
    | ⟨journal, .error (.targets path fault)⟩ =>
      Reported.report journal
      return complain "Targets error: " (fault.message path)
    | loaded => do
      let targets ← loaded
      convertSource toolkit settings (some targets) state tree

def runWrite (state : RunState) (tree : FileTree) : Reported StageEnd :=
  match state.html with
  | none => return complain "Error: No converted snippet available" []
  | some html =>
    match tree.write state.outputPath (Utf8.encode (html ++ ['\n'])) with
    | .error error =>
      if error.fault = .nul then .fail (.file error)
      else return complain "Error writing output file: " error.message
    | .ok tree => do
      Reported.note 2 ("Wrote ".toList ++ state.outputPath.toText)
      return .next { state with isWritten := true } tree

/-- Reports what has been done.  In strict mode a run with problems ends with a complaint. -/
def runReport (settings : Settings) (state : RunState) (tree : FileTree) :
    Reported StageEnd := do
  if !state.isWritten then return complain "Error: Conversion failed" []
  Reported.note 1 "\n✓ Conversion successful!".toList
  Reported.note 1 ("  Output: ".toList ++ state.outputPath.toText)
  Reported.note 1 ("  Warnings: ".toList ++ Text.ofNat state.warnings.length)
  Reported.note 1 ("  Errors: ".toList ++ Text.ofNat state.errors.length)
  if settings.strictMode && !(state.warnings ++ state.errors).isEmpty then
    return complain "Error: diagnostics recorded in strict mode" []
  return .next state tree

def run (toolkit : Toolkit) (settings : Settings) (stage : Stage) (state : RunState)
    (tree : FileTree) : Reported StageEnd :=
  match stage with
  | check => runCheck state tree
  | read => runRead toolkit settings state tree
  | convert => runConvert toolkit settings state tree
  | write => runWrite state tree
  | report => runReport settings state tree

end Stage

end SnippetMarkup
