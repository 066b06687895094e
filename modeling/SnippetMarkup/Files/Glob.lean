import SnippetMarkup.Text.Basic

/-!
# Name patterns

A pattern for file names: a star stands for any text, a question mark for any character, and
brackets for one of the characters and ranges inside, or for any other if an exclamation mark
comes first.  A bracket that is never closed stands for itself.
-/

namespace SnippetMarkup

/-! ## Patterns -/

structure BracketSet where
  negated : Bool
  singles : Text
  ranges : List (Char × Char)
  deriving DecidableEq, Repr

def BracketSet.contains (set : BracketSet) (c : Char) : Bool :=
  (set.singles.contains c || set.ranges.any fun (low, high) => low ≤ c && c ≤ high) != set.negated

inductive GlobPart where
  | literal (c : Char)
  | anyChar
  | anyText
  | set (chars : BracketSet)
  deriving DecidableEq, Repr

abbrev Glob := List GlobPart

namespace Glob

/-! ## Reading brackets -/

/-- The stretches of text between the hyphens that make ranges.  A hyphen at the start of the
text or within two characters after such a hyphen makes none. -/
def chunks (current : Text) (skip : Nat) : Text → List Text
  | [] => [current]
  | c :: rest =>
    match skip with
    | skip + 1 => chunks (current ++ [c]) skip rest
    | 0 => if c = '-' then current :: chunks [] 2 rest else chunks (current ++ [c]) 0 rest

/-- The chunks with a hyphen at the end of the last but one if the last is empty. -/
def keepFinalHyphen : List Text → List Text
  | [chunk, []] => [chunk ++ ['-']]
  | chunk :: rest => chunk :: keepFinalHyphen rest
  | [] => []

/-- The chunks without the ranges that are empty. -/
def dropEmptyRanges : List Text → List Text
  | [] => []
  | chunk :: rest =>
    match dropEmptyRanges rest with
    | [] => [chunk]
    | next :: others =>
      match chunk.getLast?, next.head? with
      | some low, some high =>
        if high < low then (chunk.dropLast ++ next.drop 1) :: others else chunk :: next :: others
      | _, _ => chunk :: next :: others

def rangesOf : List Text → List (Char × Char)
  | chunk :: next :: rest =>
    match chunk.getLast?, next.head? with
    | some low, some high => (low, high) :: rangesOf (next :: rest)
    | _, _ => rangesOf (next :: rest)
  | _ => []

/-- The set for the text between brackets. -/
def bracketSet (inside : Text) : BracketSet :=
  let negated := inside.head? = some '!'
  let parts :=
    if inside.contains '-' then
      dropEmptyRanges (keepFinalHyphen (chunks [] (if negated then 2 else 1) inside))
    else [inside]
  let parts := if negated then (parts.headD []).drop 1 :: parts.drop 1 else parts
  ⟨negated, parts.flatten, rangesOf parts⟩

/-- The text between brackets whose opening one has been read, and the text after the closing
one.  The first character is part of the set even if it is a bracket. -/
def bracket? (text : Text) : Option (Text × Text) :=
  let lead := if text.head? = some '!' then 1 else 0
  let lead := if (text.drop lead).head? = some ']' then lead + 1 else lead
  (Text.splitFirst? ']' (text.drop lead)).map fun (inside, after) =>
    (text.take lead ++ inside, after)

/-- Reads a pattern of at most so many characters. -/
def readParts : Nat → Text → Glob
  | 0, _ => []
  | _ + 1, [] => []
  | fuel + 1, c :: rest =>
    match c with
    | '*' => .anyText :: readParts fuel rest
    | '?' => .anyChar :: readParts fuel rest
    | '[' =>
      match bracket? rest with
      | some (inside, after) => .set (bracketSet inside) :: readParts fuel after
      | none => .literal '[' :: readParts fuel rest
    | c => .literal c :: readParts fuel rest

def ofText (text : Text) : Glob := readParts text.length text

/-- Whether a text is more than a plain name. -/
def isPattern (text : Text) : Bool := text.any fun c => c == '*' || c == '?' || c == '['

/-- The pattern that stands for all folders. -/
def allFolders : Text := ['*', '*']

/-- Whether two stars stand side by side in a pattern that is more than these two. -/
def hasStrayDoubleStar (text : Text) : Bool :=
  text != allFolders && (Text.cutAt allFolders text).length > 1

/-! ## Matching -/

/-- Whether a pattern stands for a name. -/
def isMatch : Glob → Text → Bool
  | [], name => name.isEmpty
  | .anyText :: rest, [] => isMatch rest []
  | .anyText :: rest, c :: name => isMatch rest (c :: name) || isMatch (.anyText :: rest) name
  | _ :: _, [] => false
  | .literal d :: rest, c :: name => c == d && isMatch rest name
  | .anyChar :: rest, _ :: name => isMatch rest name
  | .set chars :: rest, c :: name => chars.contains c && isMatch rest name
termination_by pattern name => pattern.length + name.length

end Glob

end SnippetMarkup
