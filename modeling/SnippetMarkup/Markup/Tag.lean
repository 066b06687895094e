import SnippetMarkup.Text.Basic

/-!
# Tags and attribute names

A markup comment starts with `@` and the keyword of a tag.  Each tag accepts some of the six
attribute names; a tag with any other name reports it and goes on without it.
-/

namespace SnippetMarkup

/-! ## Tags -/

inductive Tag where
  | start
  | finish
  /-- Shows text in bold, in italics or marked. -/
  | highlight
  | replace
  | link
  deriving DecidableEq, Repr

namespace Tag

/-- The tags, in the order in which their keywords are tried. -/
def all : List Tag := [start, finish, highlight, replace, link]

/-- The word that stands for a tag after the `@`. -/
def keyword : Tag → Text
  | start => ['s', 't', 'a', 'r', 't']
  | finish => ['e', 'n', 'd']
  | highlight => ['h', 'i', 'g', 'h', 'l', 'i', 'g', 'h', 't']
  | replace => ['r', 'e', 'p', 'l', 'a', 'c', 'e']
  | link => ['l', 'i', 'n', 'k']

def written (tag : Tag) : Text := '@' :: tag.keyword

/-- The tag that is written at the start of a text, and the text after it. -/
def read? (text : Text) : Option (Tag × Text) :=
  all.findSome? fun tag => (tag.written.isPrefixOf? text).map fun rest => (tag, rest)

/-- The tag at the start of a markup body. -/
def ofBody? (body : Text) : Option Tag := (read? body).map (·.1)

def ofKeyword? (word : Text) : Option Tag := all.find? fun tag => tag.keyword == word

end Tag

/-! ## Attribute names -/

inductive AttributeName where
  | region
  | substring
  | regex
  | type
  | replacement
  | target
  deriving DecidableEq, Repr

namespace AttributeName

def all : List AttributeName := [region, substring, regex, type, replacement, target]

/-- An attribute name as it is written. -/
def written : AttributeName → Text
  | region => ['r', 'e', 'g', 'i', 'o', 'n']
  | substring => ['s', 'u', 'b', 's', 't', 'r', 'i', 'n', 'g']
  | regex => ['r', 'e', 'g', 'e', 'x']
  | type => ['t', 'y', 'p', 'e']
  | replacement => ['r', 'e', 'p', 'l', 'a', 'c', 'e', 'm', 'e', 'n', 't']
  | target => ['t', 'a', 'r', 'g', 'e', 't']

/-- The attribute name that is written so. -/
def ofText? (text : Text) : Option AttributeName := all.find? fun name => name.written == text

end AttributeName

/-- The attribute names that a tag accepts. -/
def Tag.accepted : Tag → List AttributeName
  | .start => [.region]
  | .finish => [.region]
  | .highlight => [.substring, .regex, .region, .type]
  | .replace => [.substring, .regex, .region, .replacement]
  | .link => [.substring, .regex, .region, .target, .type]

/-- The attribute name that is written so, if the tag accepts it. -/
def Tag.attribute? (tag : Tag) (text : Text) : Option AttributeName :=
  (AttributeName.ofText? text).filter fun name => tag.accepted.contains name

end SnippetMarkup
