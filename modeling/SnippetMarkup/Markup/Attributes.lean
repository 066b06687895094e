import SnippetMarkup.Markup.Tag
import SnippetMarkup.Unicode.Word

/-!
# Attributes of a tag

After its tag a markup body holds assignments: a name, and a value after an equals sign.  A value
stands in single or double quotes, or reaches up to the next white space.  Whatever cannot begin
a name is passed over.
-/

namespace SnippetMarkup

open Unicode (isSpace isWord)

/-! ## Assignments -/

/-- How the value of an assignment is written. -/
inductive WrittenValue where
  | absent
  | single (text : Text)
  | double (text : Text)
  | bare (text : Text)
  deriving DecidableEq, Repr

namespace WrittenValue

/-- The value that is meant: the text between the quotes or up to the white space, unless it is
blank. -/
def value? : WrittenValue → Option Text
  | absent => none
  | single text => Text.firstVisible? [some text]
  | double text => Text.firstVisible? [some text]
  | bare text => Text.firstVisible? [some text]

/-- A value up to the next white space, and the text after it. -/
def readBare (text : Text) : WrittenValue × Text :=
  (bare (text.takeWhile fun c => !isSpace c), text.dropWhile fun c => !isSpace c)

/-- The value at the start of a text, and the text after it.  A quote that is never closed is an
ordinary character. -/
def readAssigned (text : Text) : WrittenValue × Text :=
  match text with
  | '\'' :: rest =>
    match Text.splitFirst? '\'' rest with
    | some (inside, after) => (single inside, after)
    | none => readBare text
  | '"' :: rest =>
    match Text.splitFirst? '"' rest with
    | some (inside, after) => (double inside, after)
    | none => readBare text
  | _ => readBare text

/-- The value after a name, and the text after it. -/
def read (text : Text) : WrittenValue × Text :=
  match Text.trimLeft text with
  | '=' :: rest => readAssigned (Text.trimLeft rest)
  | rest => (absent, rest)

theorem splitFirst?_length {mark : Char} {text before after : Text}
    (found : Text.splitFirst? mark text = some (before, after)) :
    after.length < text.length := by
  induction text generalizing before with
  | nil => simp [Text.splitFirst?] at found
  | cons c rest ih =>
    rw [Text.splitFirst?] at found
    split at found
    · simp only [Option.some.injEq, Prod.mk.injEq] at found
      simp [← found.2]
    · obtain ⟨⟨inner, tail⟩, step, same⟩ := Option.map_eq_some_iff.1 found
      simp only [Prod.mk.injEq] at same
      have := ih (same.2 ▸ step)
      simp only [List.length_cons]
      omega

theorem length_dropWhile_le (p : Char → Bool) (text : Text) :
    (text.dropWhile p).length ≤ text.length :=
  (List.dropWhile_sublist p).length_le

theorem readAssigned_length (text : Text) : (readAssigned text).2.length ≤ text.length := by
  unfold readAssigned
  split
  · split
    · next found => have := splitFirst?_length found; simp only [List.length_cons]; omega
    · exact length_dropWhile_le _ _
  · split
    · next found => have := splitFirst?_length found; simp only [List.length_cons]; omega
    · exact length_dropWhile_le _ _
  · exact length_dropWhile_le _ _

/-- Reading a value uses up text and adds none. -/
theorem read_length (text : Text) : (read text).2.length ≤ text.length := by
  have trimmed := length_dropWhile_le isSpace text
  unfold read
  split
  · next rest found =>
    have := readAssigned_length (Text.trimLeft rest)
    have := length_dropWhile_le isSpace rest
    simp only [Text.trimLeft] at *
    rw [found] at trimmed
    simp only [List.length_cons] at trimmed
    omega
  · exact trimmed

end WrittenValue

/-- An assignment: a name and the way in which its value is written. -/
structure Assignment where
  name : Text
  written : WrittenValue
  deriving DecidableEq, Repr

namespace Assignment

/-- The assignments of a text, from left to right. -/
def readAll (text : Text) : List Assignment :=
  match _start : text.dropWhile fun c => !isWord c with
  | [] => []
  | c :: rest =>
    let value := WrittenValue.read (rest.dropWhile isWord)
    ⟨c :: rest.takeWhile isWord, value.1⟩ :: readAll value.2
termination_by text.length
decreasing_by
  have skipped := WrittenValue.length_dropWhile_le (fun c => !isWord c) text
  have named := WrittenValue.length_dropWhile_le isWord rest
  have valued := WrittenValue.read_length (rest.dropWhile isWord)
  rw [_start] at skipped
  simp only [List.length_cons] at skipped
  omega

end Assignment

/-! ## Attributes -/

/-- The attributes of a tag: each name once, with its value if it has one. -/
abbrev Attributes := List (AttributeName × Option Text)

namespace Attributes

/-- The attributes with a value given to a name, in place of any that it had. -/
def set (attributes : Attributes) (name : AttributeName) (value : Option Text) : Attributes :=
  attributes.filter (fun (other, _) => other != name) ++ [(name, value)]

/-- The value of a name that is present and has one. -/
def value? (attributes : Attributes) (name : AttributeName) : Option Text :=
  (attributes.lookup name).join

/-- Whether a name is present, with or without a value. -/
def mentions (attributes : Attributes) (name : AttributeName) : Bool :=
  attributes.any fun (other, _) => other == name

/-- The attributes that some assignments make for a tag, the last of several to one name
counting, and the names that the tag does not accept. -/
def collect (tag : Tag) (assignments : List Assignment) : Attributes × List Text :=
  assignments.foldl (fun (attributes, refused) assignment =>
    match tag.attribute? assignment.name with
    | some name => (attributes.set name assignment.written.value?, refused)
    | none => (attributes, refused ++ [assignment.name])) ([], [])

/-- The assignments of a markup body: what follows the tag at its start, if it is there. -/
def text (tag : Tag) (body : Text) : Text :=
  Text.trimLeft ((tag.written.isPrefixOf? body).getD body)

/-- The attributes that a markup body gives to its tag, and the names that the tag does not
accept. -/
def parse (tag : Tag) (body : Text) : Attributes × List Text :=
  collect tag (Assignment.readAll (text tag body))

end Attributes

end SnippetMarkup
