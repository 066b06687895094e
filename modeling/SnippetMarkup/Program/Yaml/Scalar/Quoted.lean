import SnippetMarkup.Program.Yaml.Character
import SnippetMarkup.Program.Yaml.Defect
import SnippetMarkup.Program.Yaml.Scalar.Plain

/-!
# Quoted scalars

Between single quotes, only a quote is written in a special way, namely twice.  Between double
quotes a backslash begins an escape.  In both, line ends are folded together with the blanks around
them.
-/

namespace SnippetMarkup.Yaml.Quoted

/-- A scalar that was read, and the text after it. -/
abbrev Reading := Text × Text

/-- Line ends and the blanks after each of them: what they count as, and the text after them.
A document must not end before the scalar does. -/
def readBreaks (breaks : Text) : Text → Except Defect (Text × Text)
  | [] => .ok (breaks, [])
  | c :: rest =>
    if isBreak c then
      if atSeparator rest then .error .malformed else readBreaks (breaks ++ breakText c) rest
    else if isBlank c then readBreaks breaks rest
    else .ok (breaks, c :: rest)

/-- Further line ends after one that has been passed over. -/
def readFurther (text : Text) : Except Defect (Text × Text) :=
  if atSeparator text then .error .malformed else readBreaks [] text

/-- White space inside of a scalar: what it counts as, and the text after it. -/
def readGap (text : Text) : Except Defect (Text × Text) :=
  match text.dropWhile isBlank with
  | [] => .error .malformed
  | c :: rest =>
    if isBreak c then
      (readFurther rest).map fun (further, rest) => (Plain.foldBreaks c further, rest)
    else .ok (text.takeWhile isBlank, c :: rest)

/-! ## Escapes -/

/-- What a character after a backslash stands for. -/
def simpleEscape? : Char → Option Char
  | '0' => some '\x00'
  | 'a' => some '\x07'
  | 'b' => some '\x08'
  | 't' => some '\t'
  | '\t' => some '\t'
  | 'n' => some '\n'
  | 'v' => some '\x0b'
  | 'f' => some '\x0c'
  | 'r' => some '\r'
  | 'e' => some '\x1b'
  | ' ' => some ' '
  | '"' => some '"'
  | '\\' => some '\\'
  | '/' => some '/'
  | 'N' => some '\x85'
  | '_' => some '\xa0'
  | 'L' => some '\u2028'
  | 'P' => some '\u2029'
  | _ => none

/-- How many hexadecimal digits follow a character after a backslash. -/
def escapeWidth? : Char → Option Nat
  | 'x' => some 2
  | 'u' => some 4
  | 'U' => some 8
  | _ => none

def hexValue? (c : Char) : Option Nat :=
  if '0' ≤ c ∧ c ≤ '9' then some (c.toNat - '0'.toNat)
  else if 'a' ≤ c ∧ c ≤ 'f' then some (c.toNat - 'a'.toNat + 10)
  else if 'A' ≤ c ∧ c ≤ 'F' then some (c.toNat - 'A'.toNat + 10)
  else none

def hexNumber? (digits : Text) : Option Nat :=
  digits.foldlM (fun n c => (hexValue? c).map (16 * n + ·)) 0

/-- The escape after a backslash: what it stands for, and the text after it. -/
def readEscape : Text → Except Defect (Text × Text)
  | [] => .error .malformed
  | c :: rest =>
    match simpleEscape? c, escapeWidth? c with
    | some meant, _ => .ok ([meant], rest)
    | none, some width =>
      match hexNumber? (rest.take width) with
      | none => .error .malformed
      | some n =>
        if rest.length < width then .error .malformed
        else if 0x80000000 ≤ n then .error .hugeCharacter
        else if 0x110000 ≤ n then .error .noCharacter
        else .ok ([Char.ofNat n], rest.drop width)
    | none, none => if isBreak c then readFurther rest else .error .malformed

/-! ## Scalars -/

/-- Reads on after a part of a scalar. -/
def readRest (quote : Char) (value : Text) : Nat → Text → Except Defect Reading
  | 0, _ => .error .malformed
  | _ + 1, [] => .error .malformed
  | fuel + 1, c :: rest =>
    if c = quote then
      match rest with
      | '\'' :: more =>
        if quote = '\'' then readRest quote (value ++ ['\'']) fuel more else .ok (value, rest)
      | _ => .ok (value, rest)
    else if quote = '"' ∧ c = '\\' then do
      let (meant, rest) ← readEscape rest
      readRest quote (value ++ meant) fuel rest
    else if isBlank c ∨ isBreak c then do
      let (meant, rest) ← readGap (c :: rest)
      readRest quote (value ++ meant) fuel rest
    else readRest quote (value ++ [c]) fuel rest

/-- Reads the scalar after the quote that begins it. -/
def read (quote : Char) (text : Text) : Except Defect Reading :=
  readRest quote [] (text.length + 1) text

end SnippetMarkup.Yaml.Quoted
