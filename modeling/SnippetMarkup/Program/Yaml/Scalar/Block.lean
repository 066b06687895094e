import SnippetMarkup.Program.Yaml.Character
import SnippetMarkup.Program.Yaml.Defect

/-!
# Block scalars

A block scalar is the lines that are indented more than what is around it.  Its header says
whether the line ends are kept or folded, what becomes of those at the end, and, if the first line
does not show it, how far the lines are indented.
-/

namespace SnippetMarkup.Yaml.Block

/-! ## Headers -/

/-- What becomes of the line ends after the last line that is not empty. -/
inductive Chomping where
  | strip
  | clip
  | keep
  deriving DecidableEq, Repr

structure Header where
  chomping : Chomping := .clip
  /-- How much farther the lines are indented than what is around them, if that is said. -/
  increment : Option Nat := none

/-- The mark for what becomes of the line ends. -/
def chomping? : Char → Option Chomping
  | '-' => some .strip
  | '+' => some .keep
  | _ => none

/-- The increment that a header begins with, and the text after it. -/
def readIncrement : Text → Except Defect (Option Nat × Text)
  | [] => .ok (none, [])
  | c :: rest =>
    if c = '0' then .error .malformed
    else if c.isDigit then .ok (some (c.toNat - '0'.toNat), rest)
    else .ok (none, c :: rest)

/-- The chomping mark that a header begins with, and the text after it. -/
def readChomping : Text → Chomping × Text
  | [] => (.clip, [])
  | c :: rest =>
    match chomping? c with
    | some chomping => (chomping, rest)
    | none => (.clip, c :: rest)

/-- Reads a header, in which the two marks may stand in either order, and the rest of its line. -/
def readHeader (text : Text) : Except Defect (Header × Text) := do
  let (increment, afterIncrement) ← readIncrement text
  let (chomping, afterChomping) := readChomping afterIncrement
  let (increment, rest) ←
    match increment with
    | some n => pure (some n, afterChomping)
    | none =>
      if (text.head?.bind chomping?).isSome then readIncrement afterChomping
      else pure (none, afterChomping)
  if !atBlankOrBreak rest then throw .malformed
  match restOfLine? rest with
  | some lines => return (⟨chomping, increment⟩, lines)
  | none => throw .malformed

/-! ## Lines -/

/-- A place at the start of a line: the empty lines before it, its indentation, and the text from
its first character on. -/
structure LineStart where
  breaks : Text
  column : Nat
  rest : Text

/-- Passes over empty lines and all blanks; `most` is the greatest indentation met. -/
def measure (breaks : Text) (column most : Nat) : Text → LineStart × Nat
  | [] => (⟨breaks, column, []⟩, most)
  | c :: rest =>
    if c = ' ' then measure breaks (column + 1) (max most (column + 1)) rest
    else if isBreak c then measure (breaks ++ breakText c) 0 most rest
    else (⟨breaks, column, c :: rest⟩, most)

/-- Passes over empty lines and the blanks that indent the next line by at most `indent`. -/
def skipEmpty (indent : Nat) (breaks : Text) (column : Nat) : Text → LineStart
  | [] => ⟨breaks, column, []⟩
  | c :: rest =>
    if c = ' ' ∧ column < indent then skipEmpty indent breaks (column + 1) rest
    else if isBreak c then skipEmpty indent (breaks ++ breakText c) 0 rest
    else ⟨breaks, column, c :: rest⟩

/-- Whether a line is indented as the scalar is. -/
def belongs (indent : Nat) (start : LineStart) : Bool :=
  start.column == indent && !start.rest.isEmpty

/-- What stands between a line and the next one in the scalar. -/
def between (folded : Bool) (line lineBreak : Text) (next : LineStart) : Text :=
  if folded && lineBreak == ['\n'] && !(line.head?.any isBlank) && !(next.rest.head?.any isBlank)
  then if next.breaks.isEmpty then [' '] else []
  else lineBreak

/-- The end of a scalar whose last line ends in `lineBreak`. -/
def chomp (chomping : Chomping) (lineBreak breaks : Text) : Text :=
  match chomping with
  | .strip => []
  | .clip => lineBreak
  | .keep => lineBreak ++ breaks

/-- Reads the lines of a scalar after those that make `value`. -/
def readLines (folded : Bool) (chomping : Chomping) (indent : Nat) (value : Text) :
    Nat → LineStart → Text × Text
  | 0, start => (value, start.rest)
  | fuel + 1, start =>
    let line := start.rest.takeWhile fun c => !isBreak c
    let value := value ++ start.breaks ++ line
    match skipLine start.rest with
    | [] => (value, [])
    | c :: rest =>
      let lineBreak := breakText c
      let next := skipEmpty indent [] 0 rest
      if belongs indent next then
        readLines folded chomping indent (value ++ between folded line lineBreak next) fuel next
      else (value ++ chomp chomping lineBreak next.breaks, next.rest)

/-- Reads the block scalar after its indicator, where lines are indented by at least
`leastIndent`.  Gives its value and the text after it. -/
def read (folded : Bool) (leastIndent : Nat) (text : Text) : Except Defect (Text × Text) := do
  let (header, lines) ← readHeader text
  let (start, indent) :=
    match header.increment with
    | some increment =>
      -- The increment counts from the column of what is around the scalar.
      let indent := leastIndent + increment - 1
      (skipEmpty indent [] 0 lines, indent)
    | none =>
      let (start, most) := measure [] 0 0 lines
      (start, max leastIndent most)
  if belongs indent start then
    return readLines folded header.chomping indent [] (lines.length + 1) start
  else return (chomp header.chomping [] start.breaks, start.rest)

end SnippetMarkup.Yaml.Block
