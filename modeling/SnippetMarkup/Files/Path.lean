import SnippetMarkup.Text.Basic

/-!
# Paths

A path is a root, which is empty for a relative path, and the names that lead on from it.  Names
that mean the same place are left out when a path is read; the name of the parent is kept, because
what it means depends on the files.
-/

namespace SnippetMarkup

structure Path where
  root : Text := []
  names : List Text := []
  deriving DecidableEq, Repr

namespace Path

/-- The parts of a text between slashes. -/
def splitSlashes : Text → List Text
  | [] => [[]]
  | c :: rest => if c = '/' then [] :: splitSlashes rest else Text.consHead c (splitSlashes rest)

/-- The root that a text begins with.  Exactly two slashes are a root of their own. -/
def rootOf (text : Text) : Text :=
  match (text.takeWhile (· == '/')).length with
  | 0 => []
  | 2 => ['/', '/']
  | _ => ['/']

def ofText (text : Text) : Path :=
  ⟨rootOf text, (splitSlashes text).filter fun name => name ≠ [] ∧ name ≠ ['.']⟩

def toText (path : Path) : Text :=
  let joined := List.intercalate ['/'] path.names
  if path.root = [] ∧ path.names = [] then ['.'] else path.root ++ joined

/-- The path that leads from one place to another: the second one alone if it has a root. -/
def append (path other : Path) : Path :=
  if other.root = [] then ⟨path.root, path.names ++ other.names⟩ else other

/-- A path that leads on as a text says. -/
def extend (path : Path) (text : Text) : Path := path.append (ofText text)

/-- The last name of a path, if it has one. -/
def name (path : Path) : Text := path.names.getLast?.getD []

def parent (path : Path) : Path := ⟨path.root, path.names.dropLast⟩

/-- The last name without the extension: the last full stop that neither begins nor ends the name
and what follows it. -/
def stem (path : Path) : Text :=
  let name := path.name
  let extension := name.reverse.takeWhile (· != '.')
  let before := (name.reverse.drop (extension.length + 1)).reverse
  if name.contains '.' && !extension.isEmpty && !before.isEmpty then before else name

end Path

end SnippetMarkup
