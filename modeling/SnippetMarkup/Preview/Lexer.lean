import SnippetMarkup.Preview.Token
import SnippetMarkup.Markup.Comment
import SnippetMarkup.Unicode.Word

/-!
# Cutting annotated source into tokens

The source is code up to a markup comment, and markup from there to the end of the line.  Every
character belongs to exactly one token, so the tokens make the source again.
-/

namespace SnippetMarkup

open Unicode (isSpace isWord)

/-- What the source is at some place. -/
inductive LexMode where
  | code
  | markup
  deriving DecidableEq, Repr

namespace Token

/-! ## Code -/

/-- Whether nothing of a markup comment can begin with a character of the code. -/
def isPlain (c : Char) : Bool :=
  !(c == '\n' || c == '/' || c == '#' || c == 'r' || c == 'R' || c == '\'')

/-- The beginning of a markup comment: an introducer, white space, and a tag that is a whole
word. -/
def readComment? (source : Text) : Option (List Token) := do
  let (introducer, rest) ← Introducer.read? source
  let (tag, after) ← Tag.read? (rest.dropWhile isSpace)
  -- The tag must be a whole word, but no attributes need follow it.
  if after.head?.all isSpace then
    some (visible [⟨.comment, introducer.written⟩, ⟨.text, rest.takeWhile isSpace⟩,
      ⟨.keyword, tag.written⟩])
  else none

/-- The tokens at a place in the code that has the given character. -/
def stepCode (c : Char) (rest : Text) : List Token × LexMode :=
  match readComment? (c :: rest) with
  | some tokens => (tokens, .markup)
  | none =>
    if isPlain c then ([⟨.text, c :: rest.takeWhile isPlain⟩], .code)
    else ([⟨.text, [c]⟩], .code)

/-! ## Markup -/

/-- Whether a line holds nothing but white space from some place on. -/
def blankToLineEnd (source : Text) : Bool :=
  (source.dropWhile isSpace).isEmpty || (source.takeWhile isSpace).contains '\n'

/-- Whether a character can stand in a value without quotes. -/
def isBare (c : Char) : Bool := !isSpace c && c != ':'

/-- What follows the first colon-free part of a value without quotes: further parts, each after a
colon that does not end the line. -/
def readParts : Text → Text
  | [] => []
  | c :: rest =>
    if isBare c then c :: readParts rest
    else if c = ':' ∧ !blankToLineEnd rest then ':' :: readParts rest
    else []

def readQuoted? (quote : Char) (source : Text) : Option Text := do
  let (inside, _) ← Text.splitFirst? quote source
  some (quote :: inside ++ [quote])

/-- A value: in quotes if they are closed, and otherwise up to white space or a colon that ends
the line. -/
def readValue? : Text → Option Text
  | [] => none
  | c :: rest =>
    let inQuotes := if c = '\'' ∨ c = '"' then readQuoted? c rest else none
    match inQuotes with
    | some value => some value
    | none => if isBare c then some (c :: readParts rest) else none

def readAssignment? (source : Text) : Option (List Token) :=
  let name := source.takeWhile isWord
  let afterName := source.dropWhile isWord
  match name, afterName.dropWhile isSpace with
  | [], _ => none
  | _, '=' :: afterSign => do
    let value ← readValue? (afterSign.dropWhile isSpace)
    some (visible [⟨.name, name⟩, ⟨.text, afterName.takeWhile isSpace⟩, ⟨.punctuation, ['=']⟩,
      ⟨.text, afterSign.takeWhile isSpace⟩, ⟨.value, value⟩])
  | _, _ => none

/-- Whether a character is a blank or a tab. -/
def isGap (c : Char) : Bool := c == ' ' || c == '\t'

/-- The tokens at a place in the markup that has the given character. -/
def stepMarkup (c : Char) (rest : Text) : List Token × LexMode :=
  if c = '\n' then ([⟨.text, ['\n']⟩], .code)
  else
    match readAssignment? (c :: rest) with
    | some tokens => (tokens, .markup)
    | none =>
      if c = ':' ∧ blankToLineEnd rest then ([⟨.punctuation, [':']⟩], .markup)
      else if isWord c then ([⟨.name, c :: rest.takeWhile isWord⟩], .markup)
      else if isGap c then ([⟨.text, c :: rest.takeWhile isGap⟩], .markup)
      else ([⟨.comment, [c]⟩], .markup)

/-! ## Sources -/

/-- The tokens at a place that has the given character, and what the source is after them. -/
def step (mode : LexMode) (c : Char) (rest : Text) : List Token × LexMode :=
  match mode with
  | .code => stepCode c rest
  | .markup => stepMarkup c rest

/-- The tokens of a source.  The first character always belongs to a token. -/
def lexFrom (mode : LexMode) : Text → List Token
  | [] => []
  | c :: rest =>
    let found := step mode c rest
    found.1 ++ lexFrom found.2 (rest.drop (width found.1 - 1))
termination_by source => source.length
decreasing_by simp only [List.length_drop, List.length_cons]; omega

/-- The tokens of a source, which begins with code. -/
def lex (source : Text) : List Token := lexFrom .code source

end Token

end SnippetMarkup
