import SnippetMarkup.Text.Basic

/-!
# Settings files

A settings file gives values to names, one to a line: a name, an equals sign and a value, which may
stand in quotes and then go over several lines.  A line may begin with the word `export`, and end
in a comment.  A line that cannot be read is passed over.

Only the program reads settings files; runs take settings as they are given.
-/

namespace SnippetMarkup.Dotenv

open Unicode (isSpace)

/-- A name, with its value if it is given one. -/
structure Binding where
  name : Text
  value : Option Text
  deriving DecidableEq, Repr

/-! ## Pieces of lines -/

/-- Whether a character is white space inside of a line. -/
def isGap (c : Char) : Bool := isSpace c && c != '\n'

/-- A text after the white space inside of its first line. -/
def skipGap (text : Text) : Text := text.dropWhile isGap

def skipLine (text : Text) : Text := (text.dropWhile (· != '\n')).drop 1

/-- A text after the word that may stand before a name. -/
def skipExport (text : Text) : Text :=
  match "export".toList.isPrefixOf? text with
  | some rest => if rest.head?.any isGap then skipGap rest else text
  | none => text

/-- A text after a comment, if its first line has nothing else. -/
def skipComment (text : Text) : Text :=
  match skipGap text with
  | '#' :: rest => rest.dropWhile (· != '\n')
  | _ => text

/-- A text after its first line, if that is blank. -/
def endLine? (text : Text) : Option Text :=
  match skipGap text with
  | [] => some []
  | '\n' :: rest => some rest
  | _ => none

/-! ## Quotes -/

/-- A text up to the first quote that has no backslash before it, and the text after that quote;
if there is none, the last quote of all ends the text.  `latest` is what the latest quote that was
passed over would give, and `value` is the text so far, in reverse. -/
def readQuoted (quote : Char) (latest : Option (Text × Text)) (value : Text) :
    Text → Option (Text × Text)
  | [] => latest
  | c :: rest =>
    if c = quote then
      -- The backslash stays in the value; escapes are resolved afterwards.
      if value.head? = some '\\' then
        readQuoted quote (some (value.reverse, rest)) (c :: value) rest
      else some (value.reverse, rest)
    else readQuoted quote latest (c :: value) rest

/-- What a character after a backslash means between double quotes. -/
def escape? : Char → Option Char
  | '\\' => some '\\'
  | '\'' => some '\''
  | '"' => some '"'
  | 'a' => some '\x07'
  | 'b' => some '\x08'
  | 'f' => some '\x0c'
  | 'n' => some '\n'
  | 'r' => some '\r'
  | 't' => some '\t'
  | 'v' => some '\x0b'
  | _ => none

/-- What a character after a backslash means between single quotes. -/
def plainEscape? (c : Char) : Option Char := if c = '\\' ∨ c = '\'' then some c else none

def unescape (meaning? : Char → Option Char) : Text → Text
  | '\\' :: c :: rest =>
    match meaning? c with
    | some meant => meant :: unescape meaning? rest
    | none => '\\' :: unescape meaning? (c :: rest)
  | c :: rest => c :: unescape meaning? rest
  | [] => []

/-! ## Values and lines -/

/-- A value without quotes, without the comment after white space. -/
def dropComment : Text → Text
  | [] => []
  | c :: rest =>
    if isSpace c ∧ (rest.dropWhile isSpace).head? = some '#' then []
    else c :: dropComment rest

/-- Reads the value at the start of a text.  If that is not possible, gives the place. -/
def readValue (text : Text) : Except Text (Text × Text) :=
  match text with
  | '\'' :: rest =>
    match readQuoted '\'' none [] rest with
    | some (value, after) => .ok (unescape plainEscape? value, after)
    | none => .error text
  | '"' :: rest =>
    match readQuoted '"' none [] rest with
    | some (value, after) => .ok (unescape escape? value, after)
    | none => .error text
  | _ =>
    .ok (Text.trimRight (dropComment (text.takeWhile (· != '\n'))), text.dropWhile (· != '\n'))

/-- Reads the name at the start of a text; a comment has none.  If that is not possible, gives the
place. -/
def readName (text : Text) : Except Text (Option Text × Text) :=
  match text with
  | '#' :: _ => .ok (none, text)
  | '\'' :: rest =>
    match Text.splitFirst? '\'' rest with
    | some (c :: name, after) => .ok (some (c :: name), after)
    | _ => .error text
  | _ =>
    let isNamed (c : Char) : Bool := !(c == '=' || c == '#' || isSpace c)
    if text.head?.any isNamed then .ok (some (text.takeWhile isNamed), text.dropWhile isNamed)
    else .error text

/-- Reads a line.  If that is not possible, gives the place up to which it was. -/
def readLine (text : Text) : Except Text (Option Binding × Text) := do
  let (name, rest) ← readName (skipExport text)
  let (value, rest) ←
    match skipGap rest with
    | '=' :: after => do
      let (value, rest) ← readValue (skipGap after)
      pure (some value, rest)
    | after => pure (none, after)
  let rest := skipComment rest
  match endLine? rest with
  | some lines => return (name.map fun name => ⟨name, value⟩, lines)
  | none => throw rest

def readLines : Nat → Text → List Binding
  | 0, _ => []
  | fuel + 1, text =>
    match text.dropWhile isSpace with
    | [] => []
    | lines =>
      match readLine lines with
      | .ok (some binding, rest) => binding :: readLines fuel rest
      | .ok (none, rest) => readLines fuel rest
      -- The rest of the line is passed over from the place where reading failed.
      | .error rest => readLines fuel (skipLine rest)

def ofText (text : Text) : List Binding := readLines (text.length + 1) (Text.unifyLineEnds text)

/-! ## References -/

inductive Part where
  | literal (c : Char)
  /-- The value of another name, and what stands in its place if it has none. -/
  | reference (name default : Text)
  deriving DecidableEq, Repr

/-- The reference at the start of a text after its dollar sign, and the length of what it takes. -/
def readReference? (text : Text) : Option (Part × Nat) :=
  match text with
  | '\x7b' :: rest =>
    let name := rest.takeWhile fun c => c != '\x7d' && c != ':'
    match rest.drop name.length with
    | '\x7d' :: _ => some (.reference name [], name.length + 2)
    | ':' :: '-' :: after =>
      (Text.splitFirst? '\x7d' after).map fun (default, _) =>
        (.reference name default, name.length + default.length + 4)
    | _ => none
  | _ => none

def parts : Text → List Part
  | [] => []
  | c :: rest =>
    match if c = '$' then readReference? rest else none with
    | some (part, length) => part :: parts (rest.drop length)
    | none => .literal c :: parts rest
termination_by text => text.length
decreasing_by all_goals (simp only [List.length_drop, List.length_cons]; omega)

/-- Names with their values, each once.  A name can be present without a value. -/
abbrev Values := List (Text × Option Text)

/-- The values with one given to a name, in place of any that it had. -/
def Values.put (values : Values) (name : Text) (value : Option Text) : Values :=
  if (values.lookup name).isSome then
    values.map fun entry => if entry.1 = name then (name, value) else entry
  else values ++ [(name, value)]

/-- What a part becomes.  Values of the file count before those of the environment. -/
def Part.resolve (environment : List (Text × Text)) (values : Values) : Part → Text
  | literal c => [c]
  | reference name default =>
    match values.lookup name with
    -- A name without a value hides the variable of the environment.
    | some value => value.getD []
    | none => (environment.lookup name).getD default

/-- The values of some bindings, the last one of a name counting.  A reference sees the bindings
before it. -/
def resolve (environment : List (Text × Text)) (bindings : List Binding) : Values :=
  bindings.foldl (fun values binding =>
    values.put binding.name (binding.value.map fun value =>
      (parts value).flatMap (·.resolve environment values))) []

end SnippetMarkup.Dotenv
