import SnippetMarkup.Files.Path
import SnippetMarkup.Source.Snippet

/-!
# The state of a run

A run converts the snippet of one file and writes the result to another.
-/

namespace SnippetMarkup

/-- What a run is asked to do. -/
structure RunOptions where
  /-- The folder in which files are looked for. -/
  inputFolder : Path
  /-- The folder that the result goes to. -/
  outputFolder : Path
  verbosity : Int := 1
  /-- The file with the snippet, from the input folder on. -/
  inputFile : Text := []
  /-- The region of the file that is meant. -/
  region : Option Text := none
  /-- The file with the link targets, from the input folder on. -/
  targets : Option Text := none
  /-- The id of the element around the snippet. -/
  snippetId : Option Text := none
  lang : Option Text := none
  /-- The file for the result, from the output folder on. -/
  outputFile : Option Text := none
  deriving DecidableEq, Repr

def Path.top : Path := ⟨['/'], []⟩

structure RunState extends RunOptions where
  /-- Whether the files have been looked up. -/
  isChecked : Bool := false
  inputPath : Path := .top
  targetsPath : Option Path := none
  outputPath : Path := .top
  source : Option SnippetSource := none
  html : Option Text := none
  warnings : List Text := []
  errors : List Text := []
  isWritten : Bool := false
  deriving DecidableEq, Repr

namespace RunState

def snippet (state : RunState) : Snippet where
  file := some state.inputFile
  region := state.region
  id := state.snippetId
  lang := state.lang

/-- The name of the file for the result: the name of the input file with another extension unless
one is given. -/
def outputName (state : RunState) : Text :=
  match state.outputFile.getD [] with
  | [] => (Path.ofText state.inputFile).stem ++ ".html".toList
  | name => name

end RunState

end SnippetMarkup
