import SnippetMarkup.Regex.Matcher

/-!
# Scopes

The part of a line that an operation acts on: the occurrences of a text, the matches of a regular
expression, first the one and then the other if both are given, or the whole line.
-/

namespace SnippetMarkup

structure Scope where
  substring : Option Text := none
  regex : Option Regex := none

namespace Scope

/-- Whether a scope is the whole line. -/
def isWholeLine (scope : Scope) : Bool := scope.substring.isNone && scope.regex.isNone

/-- A line with everything in scope wrapped. -/
def wrap (scope : Scope) (wrapper : Text → Text) (line : Text) : Text :=
  let afterText :=
    match scope.substring with
    | some part => Text.replaceAll part (wrapper part) line
    | none => line
  let afterRegex :=
    match scope.regex with
    | some regex => regex.substitute (fun found => wrapper found.whole) afterText
    | none => afterText
  if scope.isWholeLine then wrapper afterRegex else afterRegex

end Scope

end SnippetMarkup
