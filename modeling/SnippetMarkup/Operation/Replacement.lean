import SnippetMarkup.Regex.Matcher
import SnippetMarkup.Report.Problem

/-!
# Replacement texts

In the replacement for a match, a dollar sign and the decimal digits after it stand for the text
of a group.  Everything else stands for itself, and the text of a group is not read again.
-/

namespace SnippetMarkup

open Unicode (isDigit)

inductive ReplacementPart where
  | literal (c : Char)
  /-- The number of a group, in decimal digits of any script. -/
  | group (digits : Text)
  deriving DecidableEq, Repr

namespace ReplacementPart

/-- The parts of a replacement text, from left to right. -/
def readAll : Text → List ReplacementPart
  | [] => []
  | '$' :: rest =>
    if (rest.takeWhile isDigit).isEmpty then literal '$' :: readAll rest
    else group (rest.takeWhile isDigit) :: readAll (rest.dropWhile isDigit)
  | c :: rest => literal c :: readAll rest
termination_by text => text.length
decreasing_by
  · simp
  · have := (List.dropWhile_sublist isDigit (l := rest)).length_le
    simp only [List.length_cons]
    omega
  · simp

/-- What a part becomes for a match of an expression with so many groups.  A group that does not
exist or took no part is empty. -/
def expand (groups : Nat) (found : Regex.Match) : ReplacementPart → Except MarkupFailure Text
  | literal c => .ok [c]
  | group digits =>
    if Text.digitLimit < digits.length then .error (.tooManyDigits digits.length)
    else
      let index := Unicode.numeral digits
      .ok (if groups < index then [] else (found.group? index).getD [])

end ReplacementPart

/-- The text that replaces a match of an expression with so many groups. -/
def expandReplacement (replacement : Text) (groups : Nat) (found : Regex.Match) :
    Except MarkupFailure Text := do
  return ((← (ReplacementPart.readAll replacement).mapM (·.expand groups found)).flatten)

/-- What a piece of a text becomes when the matches are replaced. -/
def replacePiece (replacement : Text) (groups : Nat) : Regex.Piece → Except MarkupFailure Text
  | .plain outside => .ok outside
  | .hit found => expandReplacement replacement groups found

def Regex.replaceMatches (regex : Regex) (replacement line : Text) :
    Except MarkupFailure Text := do
  return ((← (regex.pieces line).mapM (replacePiece replacement regex.groups)).flatten)

end SnippetMarkup
