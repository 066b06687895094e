import SnippetMarkup.Text.Basic

/-!
# Characters of YAML

The classes of characters on which the structure of a YAML text rests.  A text has line feeds for
all line ends that hold a carriage return.
-/

namespace SnippetMarkup.Yaml

/-- Whether a text may hold a character. -/
def isPermitted (c : Char) : Bool :=
  let n := c.toNat
  n == 0x09 || n == 0x0A || n == 0x0D || (0x20 ≤ n && n ≤ 0x7E) || n == 0x85 ||
    (0xA0 ≤ n && n ≤ 0xD7FF) || (0xE000 ≤ n && n ≤ 0xFFFD) || 0x10000 ≤ n

def isBreak (c : Char) : Bool := c == '\n' || c == '\x85' || c == '\u2028' || c == '\u2029'

/-- What a character that ends a line counts as in a scalar. -/
def breakText (c : Char) : Text := if c = '\x85' then ['\n'] else [c]

/-- Whether a character is a blank or a tab. -/
def isBlank (c : Char) : Bool := c == ' ' || c == '\t'

/-- Whether a text is at an end or at white space. -/
def atGap : Text → Bool
  | [] => true
  | c :: _ => isBlank c || isBreak c

/-- Whether a text is at an end, a blank or a line end. -/
def atBlankOrBreak : Text → Bool
  | [] => true
  | c :: _ => c == ' ' || isBreak c

/-- Whether a character may stand in the name of an anchor. -/
def isNameChar (c : Char) : Bool := c.isAlphanum || c == '-' || c == '_'

/-- Whether a line begins with three given characters that stand alone. -/
def startsWithMarker (marker : Char) : Text → Bool
  | a :: b :: c :: rest => a == marker && b == marker && c == marker && atGap rest
  | _ => false

/-- Whether a line begins with a mark between documents. -/
def atSeparator (text : Text) : Bool := startsWithMarker '-' text || startsWithMarker '.' text

/-- A text after the blanks at its start. -/
def skipSpaces (text : Text) : Text := text.dropWhile (· == ' ')

/-- A text from the end of its first line on. -/
def skipLine (text : Text) : Text := text.dropWhile fun c => !isBreak c

/-- A text after a comment at its start, if there is one. -/
def skipComment (text : Text) : Text :=
  match text with
  | '#' :: _ => skipLine text
  | _ => text

/-- What follows a line end, after nothing but blanks and a comment. -/
def restOfLine? (text : Text) : Option Text :=
  match skipComment (skipSpaces text) with
  | [] => some []
  | c :: rest => if isBreak c then some rest else none

end SnippetMarkup.Yaml
