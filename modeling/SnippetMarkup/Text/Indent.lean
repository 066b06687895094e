import SnippetMarkup.Text.Basic

/-!
# Indentation

A snippet is shown without the indentation that all of its lines share.  Only lines with visible
text take part in measuring it; blank lines lose at most as much as the others, and a blank first
or last line is dropped.
-/

namespace SnippetMarkup.Text

open Unicode (isSpace)

/-- The number of white-space characters at the start of a line. -/
def indentation (line : Text) : Nat := (line.takeWhile isSpace).length

/-- The least indentation of the lines with visible text, and zero if there are none. -/
def commonIndentation (lines : List Text) : Nat :=
  match (lines.filter fun line => !isBlank line).map indentation with
  | [] => 0
  | first :: rest => rest.foldl min first

/-- The lines without a blank first line. -/
def dropBlankFirst : List Text → List Text
  | [] => []
  | first :: rest => if isBlank first then rest else first :: rest

/-- The lines without a blank last line. -/
def dropBlankLast (lines : List Text) : List Text := (dropBlankFirst lines.reverse).reverse

/-- The lines without a blank first and a blank last line and without their common indentation. -/
def trimIndentLines (lines : List Text) : List Text :=
  let common := commonIndentation lines
  (dropBlankLast (dropBlankFirst lines)).map (·.drop common)

/-- A text without the indentation that its lines share. -/
def trimIndent (text : Text) : Text := joinLines (trimIndentLines (splitLines text))

end SnippetMarkup.Text
