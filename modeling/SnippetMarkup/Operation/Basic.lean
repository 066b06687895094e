import SnippetMarkup.Operation.Scope
import SnippetMarkup.Operation.Replacement
import SnippetMarkup.Html.Escape

/-!
# Operations

What a highlight, replace or link tag does to the text of a line.  The text has been escaped for
HTML before, so the tags that an operation adds are the only ones.
-/

namespace SnippetMarkup

/-! ## Styles -/

inductive Style where
  | bold
  | italic
  | marked
  deriving DecidableEq, Repr

namespace Style

def element : Style → Text
  | bold => ['b']
  | italic => ['i']
  | marked => ['m', 'a', 'r', 'k']

/-- The tag in front of highlighted text. -/
def opening (style : Style) : Text := '<' :: style.element ++ ['>']

def closing (style : Style) : Text := '<' :: '/' :: style.element ++ ['>']

def ofName? (name : Text) : Option Style :=
  if name = "bold".toList then some bold
  else if name = "italic".toList then some italic
  else if name = "highlighted".toList then some marked
  else none

end Style

/-! ## Operations -/

inductive Operation where
  /-- Puts what is in scope between the tags of a style. -/
  | highlight (scope : Scope) (style : Style)
  /-- Puts other text in the place of what is in scope. -/
  | replace (scope : Scope) (replacement : Text)
  /-- Makes what is in scope an anchor with a reference id in the given attribute. -/
  | link (scope : Scope) (attrName id : Text)

namespace Operation

def scope : Operation → Scope
  | highlight scope _ => scope
  | replace scope _ => scope
  | link scope _ _ => scope

def wrapStyle (style : Style) (text : Text) : Text := style.opening ++ text ++ style.closing

/-- The tag in front of the text of an anchor. -/
def anchorOpening (attrName id : Text) : Text :=
  ['<', 'a', ' '] ++ attrName ++ ['=', '"'] ++ Html.escape id ++ ['"', '>']

/-- The tag after the text of an anchor. -/
def anchorClosing : Text := ['<', '/', 'a', '>']

def wrapAnchor (attrName id text : Text) : Text :=
  anchorOpening attrName id ++ text ++ anchorClosing

/-- A line with what is in scope replaced. -/
def applyReplace (scope : Scope) (replacement line : Text) : Except MarkupFailure Text := do
  let afterText :=
    match scope.substring with
    | some part => Text.replaceAll part replacement line
    | none => line
  let afterRegex ←
    match scope.regex with
    | some regex => regex.replaceMatches replacement afterText
    | none => pure afterText
  -- In a replacement for the whole line, nothing stands for a group.
  return if scope.isWholeLine then replacement else afterRegex

def apply (line : Text) : Operation → Except MarkupFailure Text
  | highlight scope style => .ok (scope.wrap (wrapStyle style) line)
  | replace scope replacement => applyReplace scope replacement line
  | link scope attrName id => .ok (scope.wrap (wrapAnchor attrName id) line)

/-- A line after some operations in turn. -/
def applyAll (line : Text) (operations : List Operation) : Except MarkupFailure Text :=
  operations.foldlM (fun line operation => operation.apply line) line

end Operation

end SnippetMarkup
