import SnippetMarkup.Text.Basic

/-!
# Escaping text for HTML

Four characters have a meaning of their own in HTML content and in double-quoted attributes, and
are written as entities.  The replacements are made one character after the other over the whole
text; the ampersand comes first, so that the ampersands of the entities stay as they are.
-/

namespace SnippetMarkup.Html

/-- The characters with an entity, in the order in which they are replaced. -/
def entities : List (Char × Text) := [
  ('&', ['&', 'a', 'm', 'p', ';']),
  ('<', ['&', 'l', 't', ';']),
  ('>', ['&', 'g', 't', ';']),
  ('"', ['&', 'q', 'u', 'o', 't', ';'])]

/-- A text with every occurrence of a character replaced by a text. -/
def replaceChar (c : Char) (replacement text : Text) : Text :=
  text.flatMap fun d => if d = c then replacement else [d]

/-- A text fit for HTML content and for double-quoted attributes. -/
def escape (text : Text) : Text :=
  entities.foldl (fun escaped (c, entity) => replaceChar c entity escaped) text

end SnippetMarkup.Html
