import SnippetMarkup.Program.Yaml.Number
import SnippetMarkup.Program.Yaml.Timestamp

/-!
# Tags of nodes

The tag of a node says what it stands for.  A plain scalar without a tag has the one that its form
shows.
-/

namespace SnippetMarkup.Yaml

inductive Tag where
  | null
  | bool
  | int
  | float
  | binary
  | timestamp
  | text
  | sequence
  | mapping
  | orderedMapping
  /-- Pairs in order, with keys that may occur several times. -/
  | pairs
  | set
  /-- The key whose values are entries of the mapping itself. -/
  | merge
  /-- The key whose value stands for a mapping where a scalar is meant. -/
  | default
  | unknown
  deriving DecidableEq, Repr

namespace Tag

/-- What the names of the common tags begin with. -/
def common : Text := "tag:yaml.org,2002:".toList

def names : List (String × Tag) := [
  ("null", null), ("bool", bool), ("int", int), ("float", float), ("binary", binary),
  ("timestamp", timestamp), ("str", text), ("seq", sequence), ("map", mapping),
  ("omap", orderedMapping), ("pairs", pairs), ("set", set), ("merge", merge), ("value", default)]

/-- The tag with the given full name. -/
def ofText (name : Text) : Tag :=
  match common.isPrefixOf? name with
  | some short => (names.lookup (String.ofList short)).getD unknown
  | none => unknown

/-! ## Tags from forms -/

def truthWords : List (String × Bool) := [
  ("yes", true), ("no", false), ("true", true), ("false", false), ("on", true), ("off", false)]

/-- Whether a text is a word for a truth value: in small letters, in capitals, or with a capital at
its start. -/
def isTruthWord (text : Text) : Bool :=
  truthWords.any fun (word, _) =>
    let small := word.toList
    text == small || text == small.map Char.toUpper ||
      text == (small.take 1).map Char.toUpper ++ small.drop 1

/-- Whether a text is a word for nothing. -/
def isNullWord (text : Text) : Bool :=
  ["", "~", "null", "Null", "NULL"].any fun word => text == word.toList

/-- The tag that the form of a plain scalar shows.  A line feed at its end does not count. -/
def ofForm (text : Text) : Tag :=
  let form := if 1 < text.length ∧ text.getLast? = some '\n' then text.dropLast else text
  if isTruthWord form then bool
  else if Number.isFloatForm form then float
  else if Number.isIntForm form then int
  else if form = ['<', '<'] then merge
  else if isNullWord form then null
  else if Moment.isForm form then timestamp
  else if form = ['='] then default
  else if ['!', '&', '*'].any fun mark => form = [mark] then unknown
  else .text

end Tag

end SnippetMarkup.Yaml
