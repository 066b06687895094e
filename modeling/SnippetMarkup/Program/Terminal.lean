import SnippetMarkup.Preview.Token

/-!
# Previews for a terminal

A source in colours, by the escape sequences that terminals understand.  A colour is set again on
every line.  Runs take any way of showing a source; this is the one that the program gives them.
-/

namespace SnippetMarkup

/-- The number of the colour that tokens of a kind have, if they have one. -/
def TokenKind.colour? : TokenKind → Option Text
  | text | punctuation => none
  | comment => some ['3', '7']
  | keyword => some ['3', '4']
  | name => some ['3', '6']
  | value => some ['3', '3']

namespace Terminal

/-- The mark that may stand at the start of a file. -/
def byteOrderMark : Char := '\uFEFF'

/-- A source in the form in which it is shown: with line feeds for all line ends, without a mark
at its start, and with exactly one line end after the last line that is not empty and none before
the first. -/
def tidy (source : Text) : Text :=
  let unmarked := if source.head? = some byteOrderMark then source.drop 1 else source
  let lines := Text.unifyLineEnds unmarked
  let begun := lines.dropWhile (· == '\n')
  (begun.reverse.dropWhile (· == '\n')).reverse ++ ['\n']

def inColour (colour text : Text) : Text :=
  "\x1b[".toList ++ colour ++ 'm' :: text ++ "\x1b[39;49;00m".toList

/-- Whether a line ends after a character. -/
def endsLine (c : Char) : Bool :=
  let n := c.toNat
  (0x0A ≤ n && n ≤ 0x0D) || (0x1C ≤ n && n ≤ 0x1E) || n == 0x85 || n == 0x2028 || n == 0x2029

/-- The lines of a text without carriage returns, each with the character that ends it. -/
def lines : Text → List Text
  | [] => []
  | c :: rest => if endsLine c then [c] :: lines rest else Text.consHead c (lines rest)

/-- A line of a token in its colour. -/
def renderLine (colour : Option Text) (line : Text) : Text :=
  let (shown, lineEnd) := if line.getLast? = some '\n' then (line.dropLast, ['\n']) else (line, [])
  (match colour with
    | some colour => inColour colour shown
    | none => shown) ++ lineEnd

def renderToken (token : Token) : Text :=
  (lines token.text).flatMap (renderLine token.kind.colour?)

/-- A source in colours, given what cuts it into tokens. -/
def highlight (lex : Text → List Token) (source : Text) : Text :=
  (lex (tidy source)).flatMap renderToken

end Terminal

end SnippetMarkup
