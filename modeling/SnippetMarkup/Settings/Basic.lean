import SnippetMarkup.Text.Basic

/-!
# Settings

What can be set for a whole run, and the two forms of text that hang on the settings alone: the
messages of problems and the element around a converted snippet.
-/

namespace SnippetMarkup

structure Settings where
  /-- The text shown for a snippet that has no lines. -/
  unresolvedPlaceholder : Text := "// snippet not resolved".toList
  wrapTag : Text := "pre".toList
  /-- The attribute of an anchor that holds the reference id. -/
  linkAttribute : Text := "data-dri".toList
  /-- What stands before the message of every problem. -/
  messagePrefix : Text := "@snippet: ".toList
  fileEncoding : Text := "utf-8".toList
  /-- What is put at the end of a class name to get the name of its file. -/
  classExtension : Text := ".java".toList
  strictMode : Bool := false
  deriving DecidableEq, Repr

namespace Settings

/-- The message of a problem as it is reported. -/
def message (settings : Settings) (text : Text) : Text := settings.messagePrefix ++ text

/-- A converted snippet in its element, which has the given attributes. -/
def wrap (settings : Settings) (body attributes : Text) : Text :=
  '<' :: settings.wrapTag ++ attributes ++ '>' :: body ++ '<' :: '/' :: settings.wrapTag ++ ['>']

end Settings

end SnippetMarkup
