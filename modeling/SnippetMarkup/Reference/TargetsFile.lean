import SnippetMarkup.Reference.Targets
import SnippetMarkup.Report.Reported
import SnippetMarkup.Yaml.Loader

/-!
# Target files

A target file is a YAML document: a mapping whose entry `targets` maps the names of targets to
references.  Keys and values that are not texts count as what they are shown as.  What loads the
document is given from outside.
-/

namespace SnippetMarkup

namespace Targets

/-- The mapping that a value is; a value that counts as nothing is an empty one. -/
def mapping? (reading : Yaml.Reading) (value : Yaml.Value) :
    Option (List (Yaml.Scalar × Yaml.Value)) :=
  if value.isNothing reading.collections then some []
  else
    match value with
    | .scalar _ => none
    | .collection id =>
      match reading.collections.lookup id with
      | some (.map entries) => some entries
      | _ => none

/-- The key of the entry for targets. -/
def entryName : Yaml.Scalar := .text "targets".toList

/-- The entries of the mapping that a document gives to targets. -/
def ofReading (reading : Yaml.Reading) :
    Except TargetsFault (List (Yaml.Scalar × Yaml.Value)) :=
  let whole :=
    match reading.root with
    | .scalar .null => some []
    | .scalar _ => none
    | .collection id =>
      match reading.collections.lookup id with
      | some (.map entries) => some entries
      | _ => none
  match whole with
  | none => .error .notMapping
  | some entries =>
    match entries.lookup entryName with
    | none => .ok []
    | some value =>
      match mapping? reading value with
      | some entries => .ok entries
      | none => .error .entryNotMapping

/-- The entries of a mapping as texts, if all of them can be shown. -/
def ofEntries? (reading : Yaml.Reading) (entries : List (Yaml.Scalar × Yaml.Value)) :
    Option TextTable :=
  entries.foldlM (fun (texts : TextTable) (key, value) => do
    return texts.put (← key.toText?) (← value.toText? reading.collections)) []

/-- The note on targets that were read. -/
def loadedNote (count : Nat) (path : Path) : Text :=
  "Loaded ".toList ++ Text.ofNat count ++ " link targets from ".toList ++ path.toText

/-- What becomes of a target file that cannot be loaded. -/
def loadFailure (path : Path) : Yaml.Fault → Failure
  | .malformed reason => .targets path (.malformed reason)
  | fault => .yaml fault

/-- The value of the document that the file at a path holds. -/
def readFile (loader : Yaml.Loader) (tree : FileTree) (path : Path) :
    Except Failure Yaml.Reading :=
  match tree.read path with
  | .error error =>
    .error (if error.fault = .nul then .file error else .targets path (.unreadable error))
  | .ok bytes => (loader bytes).mapError (loadFailure path)

/-- Reads the targets from the file at a path. -/
def load (loader : Yaml.Loader) (tree : FileTree) (path : Path) (memberFallback : Bool) :
    Reported Targets := do
  let reading ← Reported.ofExcept (readFile loader tree path)
  let entries ← Reported.ofExcept ((ofReading reading).mapError (.targets path))
  Reported.note 2 (loadedNote entries.length path)
  match ofEntries? reading entries with
  | none => .fail .longNumber
  | some texts => return ⟨texts, memberFallback⟩

end Targets

end SnippetMarkup
