import SnippetMarkup.Run.Toolkit
import SnippetMarkup.Program.CharacterName
import SnippetMarkup.Program.Terminal
import SnippetMarkup.Program.Yaml.Reading

/-!
# The tools of the program

What the program gives its runs: a loader for the YAML that target files are written in, colours for
terminals, and those names of characters and encodings that occur most.  Runs are proved right for
any tools.
-/

namespace SnippetMarkup

/-- Loads a document once all of its bytes have been decoded. -/
def Yaml.loadDecoded (bytes : Bytes) : Except Fault Reading :=
  match Utf8.decodeStream bytes with
  | .error error => .error (.undecodable error)
  | .ok text => (Reading.ofText (Text.unifyLineEnds text)).mapError Defect.fault

def Toolkit.standard : Toolkit where
  loader := Yaml.loadDecoded
  highlight := Terminal.highlight
  characters := Unicode.codeOfName?
  codecs := .known

end SnippetMarkup
