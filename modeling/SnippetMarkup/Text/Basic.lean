import SnippetMarkup.Unicode.Space

/-!
# Texts

A text is the list of its characters.  This module holds the operations that every other one
uses: trimming white space, splitting into lines and joining them again, and cutting a text at
the occurrences of another.
-/

namespace SnippetMarkup

open Unicode (isSpace)

abbrev Text := List Char

namespace Text

/-! ## White space -/

/-- Whether a text holds nothing but white space. -/
def isBlank (text : Text) : Bool := text.all isSpace

/-- A text without the white space at its start. -/
def trimLeft (text : Text) : Text := text.dropWhile isSpace

/-- A text without the white space at its end. -/
def trimRight (text : Text) : Text := (text.reverse.dropWhile isSpace).reverse

/-- The first of some optional texts that is present and not blank. -/
def firstVisible? (candidates : List (Option Text)) : Option Text :=
  candidates.findSome? fun candidate => candidate.filter fun text => !isBlank text

/-! ## Lines -/

/-- A character put in front of the first of some texts. -/
def consHead (c : Char) : List Text → List Text
  | [] => [[c]]
  | first :: rest => (c :: first) :: rest

/-- The lines of a text: what stands before, between and after its line feeds. -/
def splitLines : Text → List Text
  | [] => [[]]
  | c :: rest => if c = '\n' then [] :: splitLines rest else consHead c (splitLines rest)

def joinLines (lines : List Text) : Text := List.intercalate ['\n'] lines

/-- A text with a line feed for every line end: a carriage return, a line feed, or both. -/
def unifyLineEnds : Text → Text
  | '\r' :: '\n' :: rest => '\n' :: unifyLineEnds rest
  | '\r' :: rest => '\n' :: unifyLineEnds rest
  | c :: rest => c :: unifyLineEnds rest
  | [] => []

/-- A line without the carriage returns at its end. -/
def dropReturns (line : Text) : Text := (line.reverse.dropWhile (· == '\r')).reverse

/-- The lines of a file, whichever of the two line ends it uses. -/
def fileLines (contents : Text) : List Text := (splitLines contents).map dropReturns

/-! ## Occurrences of a text in another -/

/-- Cuts a text at the occurrences of `part`, taken from left to right and not overlapping.  The
empty part occurs before and after every character. -/
def cutAt (part : Text) : Text → List Text
  | [] => if part = [] then [[], []] else [[]]
  | c :: rest =>
    if part = [] then [] :: consHead c (cutAt part rest)
    -- The search goes on after the occurrence, so occurrences do not overlap.
    else if part.isPrefixOf (c :: rest) then [] :: cutAt part (rest.drop (part.length - 1))
    else consHead c (cutAt part rest)
termination_by text => text.length
decreasing_by all_goals (simp only [List.length_drop, List.length_cons]; omega)

/-- A text with every occurrence of `part` replaced. -/
def replaceAll (part replacement text : Text) : Text :=
  List.intercalate replacement (cutAt part text)

/-- A text up to and after the first occurrence of a character, if there is one. -/
def splitFirst? (mark : Char) : Text → Option (Text × Text)
  | [] => none
  | c :: rest =>
    if c = mark then some ([], rest)
    else (splitFirst? mark rest).map fun (before, after) => (c :: before, after)

/-! ## Numbers and lists in texts -/

def ofNat (n : Nat) : Text := Nat.toDigits 10 n

/-- The most digits that a number may have where it is read or written. -/
def digitLimit : Nat := 4300

/-- Some texts in a row, divided by a comma and a space. -/
def commaList (items : List Text) : Text := List.intercalate [',', ' '] items

end Text

end SnippetMarkup
