import SnippetMarkup.Files.Tree

/-!
# Faults of target files

Why a file does not give the references of link targets.
-/

namespace SnippetMarkup

inductive TargetsFault where
  /-- The file is no YAML document, for the reason that its loader tells. -/
  | malformed (reason : Text)
  | unreadable (error : FileError)
  /-- The document is neither a mapping nor empty. -/
  | notMapping
  /-- The entry for targets is neither a mapping nor empty. -/
  | entryNotMapping
  deriving DecidableEq, Repr

/-- What a fault of the file at a path reads like. -/
def TargetsFault.message (path : Path) : TargetsFault → Text
  | malformed reason => "Failed to parse ".toList ++ path.toText ++ ':' :: ' ' :: reason
  | unreadable error => "Failed to load ".toList ++ path.toText ++ ':' :: ' ' :: error.message
  | notMapping => path.toText ++ " must contain a mapping".toList
  | entryNotMapping => "'targets' in ".toList ++ path.toText ++ " must be a mapping".toList

end SnippetMarkup
