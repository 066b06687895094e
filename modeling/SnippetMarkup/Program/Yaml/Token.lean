import SnippetMarkup.Text.Basic

/-!
# Tokens of YAML

A YAML text as a sequence of tokens, in which the structure that indentation gives is explicit: a
block collection has a start and an end, and every key of a mapping has a mark before it.
-/

namespace SnippetMarkup.Yaml

/-- What a line before a document can declare. -/
inductive Directive where
  /-- The version of the language, by its first number. -/
  | version (major : Nat)
  /-- What tags that begin with a handle stand for. -/
  | handle (name meaning : Text)
  | reserved
  deriving DecidableEq, Repr

/-- The tag of a node as it is written: a suffix, and a handle before it unless the tag is given in
full. -/
structure WrittenTag where
  handle : Option Text
  suffix : Text
  deriving DecidableEq, Repr

inductive Token where
  | directive (directive : Directive)
  | documentStart
  | documentEnd
  | blockSequenceStart
  | blockMappingStart
  | blockEnd
  | blockEntry
  | flowSequenceStart
  | flowSequenceEnd
  | flowMappingStart
  | flowMappingEnd
  | flowEntry
  | key
  | value
  | anchor (name : Text)
  | alias (name : Text)
  | tag (tag : WrittenTag)
  /-- A scalar, which is plain if it is written without quotes and without a block. -/
  | scalar (isPlain : Bool) (text : Text)
  deriving DecidableEq, Repr

end SnippetMarkup.Yaml
