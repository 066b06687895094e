import SnippetMarkup.Text.Basic

/-!
# Snippets

What a snippet tag says about its snippet, and the lines that are found for it.
-/

namespace SnippetMarkup

/-- The attributes of a snippet tag, and the lines inside of it. -/
structure Snippet where
  body : Option (List Text) := none
  file : Option Text := none
  /-- The class whose file holds the lines. -/
  className : Option Text := none
  /-- The region of the file that is meant. -/
  region : Option Text := none
  /-- The id of the element around the snippet. -/
  id : Option Text := none
  lang : Option Text := none
  deriving DecidableEq, Repr

/-- Whether a snippet refers to a file. -/
def Snippet.isExternal (snippet : Snippet) : Bool :=
  snippet.file.isSome || snippet.className.isSome

structure SnippetSource where
  lines : List Text
  origin : Text := "inline".toList
  /-- The region that is meant, if not all of the lines are. -/
  region : Option Text := none
  deriving DecidableEq, Repr

end SnippetMarkup
