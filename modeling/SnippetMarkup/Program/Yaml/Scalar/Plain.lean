import SnippetMarkup.Program.Yaml.Character

/-!
# Plain scalars

A plain scalar is written without quotes.  It is made of words; what separates two of them on one
line is kept, and line ends between them are folded.
-/

namespace SnippetMarkup.Yaml.Plain

structure Reading where
  value : Text
  rest : Text
  /-- Whether line ends after the last word have been passed over. -/
  brokeLine : Bool

/-- Whether a character divides the entries of a collection in brackets. -/
def isFlowMark (c : Char) : Bool :=
  c == ',' || c == '[' || c == ']' || c == '\x7b' || c == '\x7d'

/-- Whether no word goes on here.  In brackets, more characters end a word. -/
def endsWord (inFlow : Bool) : Text → Bool
  | [] => true
  | c :: rest =>
    isBlank c || isBreak c ||
      (c == ':' && (atGap rest || (inFlow && rest.head?.any isFlowMark))) ||
      (inFlow && (c == '?' || isFlowMark c))

/-- The word at the start of a text, and the text after it. -/
def readWord (inFlow : Bool) : Text → Text × Text
  | [] => ([], [])
  | c :: rest =>
    if endsWord inFlow (c :: rest) then ([], c :: rest)
    else
      let (word, after) := readWord inFlow rest
      (c :: word, after)

/-- What stands between two words: what it counts as, which is nothing if the scalar ends, the
text after it, and the column there if it is not on the line of the word before. -/
structure Gap where
  text : Text
  rest : Text
  column : Option Nat

/-- Blanks and line ends: what the line ends count as and the text after them, with the number of
blanks on the last line; the first is `none` if a mark between documents was met. -/
def readBreaks (breaks : Text) (column : Nat) : Text → Option Text × Text × Nat
  | [] => (some breaks, [], column)
  | c :: rest =>
    if c = ' ' then readBreaks breaks (column + 1) rest
    else if isBreak c then
      if atSeparator rest then (none, rest, 0) else readBreaks (breaks ++ breakText c) 0 rest
    else (some breaks, c :: rest, column)

/-- What a line end and the further ones after it count as. -/
def foldBreaks (first : Char) (further : Text) : Text :=
  if breakText first ≠ ['\n'] then breakText first ++ further
  else if further.isEmpty then [' '] else further

/-- What stands at the start of a text between two words. -/
def readGap (text : Text) : Gap :=
  let blanks := text.takeWhile (· == ' ')
  match skipSpaces text with
  | [] => ⟨blanks, [], none⟩
  | c :: rest =>
    if isBreak c then
      if atSeparator rest then ⟨[], rest, some 0⟩
      else
        match readBreaks [] 0 rest with
        | (some further, rest, column) => ⟨foldBreaks c further, rest, some column⟩
        | (none, rest, column) => ⟨[], rest, some column⟩
    else ⟨blanks, c :: rest, none⟩

/-- Reads words up to the end of a scalar that must be indented by at least `indent`.  The words so
far make `value`, and `gap` follows them. -/
def readWords (inFlow : Bool) (indent : Nat) (value gap : Text) (brokeLine : Bool) :
    Nat → Text → Reading
  | 0, text => ⟨value, text, brokeLine⟩
  | fuel + 1, text =>
    match readWord inFlow text with
    | ([], _) => ⟨value, text, brokeLine⟩
    | (word, rest) =>
      let value := value ++ gap ++ word
      let between := readGap rest
      let ends := between.text.isEmpty || between.rest.head? == some '#' ||
        (!inFlow && between.column.any (· < indent))
      -- The gap is not part of the scalar unless a word follows it.
      if ends then ⟨value, between.rest, between.column.isSome⟩
      else readWords inFlow indent value between.text between.column.isSome fuel between.rest

/-- Reads the plain scalar at the start of a text. -/
def read (inFlow : Bool) (indent : Nat) (text : Text) : Reading :=
  readWords inFlow indent [] [] false (text.length + 1) text

end SnippetMarkup.Yaml.Plain
