import SnippetMarkup.Text.Basic

/-!
# Tables of texts

A table gives a text to each of its keys.  A key keeps its place when it is given another text.
-/

namespace SnippetMarkup

abbrev TextTable := List (Text × Text)

/-- A table with a text given to a key, in place of any that the key had. -/
def TextTable.put (table : TextTable) (key value : Text) : TextTable :=
  if (table.lookup key).isSome then
    table.map fun entry => if entry.1 = key then (key, value) else entry
  else table ++ [(key, value)]

end SnippetMarkup
