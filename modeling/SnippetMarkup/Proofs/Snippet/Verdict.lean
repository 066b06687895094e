import Mathlib
import SnippetMarkup.Proofs.Region.History
import SnippetMarkup.Proofs.Snippet.Completion
import SnippetMarkup.Proofs.Snippet.Contribution

/-!
# The end of a run

Whether a run has ended the extraction, and which regions it has left open, can be told from what
the tags of the lines that it visits have done to regions: a start tag opens one, an operation tag
that mentions one opens it if it makes an operation, and an end tag closes one, unless it ends the
extraction.
-/

namespace SnippetMarkup

open Progress

/-! ## What a tag does to regions -/

namespace Progress

variable (progress : Progress)

variable {progress}

end Progress

namespace Visit

/-- Whether the end tag of a line ends the extraction: it names the region, or it has no name and
all regions that have been opened are closed. -/
def Ends (context : SnippetContext) (history : RegionHistory) (visit : Visit) : Prop :=
  ∃ attributes, acting? visit.line = some (.finish, attributes) ∧ context.region.isSome ∧
    (attributes.value? .region = context.region ∨
      attributes.value? .region = none ∧ ∀ place, ¬history.Unclosed place)

variable {context : SnippetContext} {history : RegionHistory} {visit : Visit}

end Visit

/-! ## What a run does to regions -/

namespace Progress

variable {context : SnippetContext} {closing : Bool}

end Progress

namespace Follows

variable {context : SnippetContext} {history : RegionHistory} {visited : List Visit}
  {later : Progress}

end Follows

/-! ## Going forward -/

namespace Progress

end Progress

/-! ## The verdict -/

namespace Progress

end Progress

end SnippetMarkup
