import SnippetMarkup.Markup.Tag

/-!
# Markup comments

A line may end in a markup comment: a comment introducer, white space, a tag, and the attributes
of the tag up to the end of the line.  The comment begins at the leftmost place from which the
rest of the line can be read so.
-/

namespace SnippetMarkup

open Unicode (isSpace)

/-! ## Introducers -/

inductive Introducer where
  | slashes
  | hash
  | lowerRem
  | upperRem
  | apostrophe
  deriving DecidableEq, Repr

namespace Introducer

/-- The introducers, in the order in which they are tried. -/
def all : List Introducer := [slashes, hash, lowerRem, upperRem, apostrophe]

def written : Introducer → Text
  | slashes => ['/', '/']
  | hash => ['#']
  | lowerRem => ['r', 'e', 'm']
  | upperRem => ['R', 'E', 'M']
  | apostrophe => ['\'']

/-- The introducer that is written at the start of a text, and the text after it. -/
def read? (text : Text) : Option (Introducer × Text) :=
  all.findSome? fun introducer =>
    (introducer.written.isPrefixOf? text).map fun rest => (introducer, rest)

end Introducer

/-! ## Scanning a line -/

/-- A line that ends in a markup comment. -/
structure MarkupComment where
  introducer : Introducer
  body : Text
  /-- The line in front of the comment, without white space at its end. -/
  code : Text
  deriving DecidableEq, Repr

namespace MarkupComment

/-- Whether a comment is meant for the line after it: its body ends in a colon. -/
def continues (comment : MarkupComment) : Bool := comment.body.getLast? == some ':'

/-- Whether nothing but a final line feed is left. -/
def atEnd (rest : Text) : Bool := rest == [] || rest == ['\n']

/-- What follows a tag up to the end of the line: white space and some text, or nothing. -/
def tail? (rest : Text) : Option Text :=
  match rest with
  | [] => some []
  | c :: more =>
    let shown := more.takeWhile (· != '\n')
    -- The white space may itself be a line feed; the text after it is the last line then.
    if isSpace c && !shown.isEmpty && atEnd (more.dropWhile (· != '\n')) then some (c :: shown)
    else if atEnd rest then some []
    else none

/-- The markup body that a text is, up to the end of the line. -/
def body? (text : Text) : Option Text :=
  (Tag.read? text).bind fun (tag, rest) => (tail? rest).map fun tail => tag.written ++ tail

/-- The introducer and the body of the comment that a text is, up to the end of the line. -/
def read? (text : Text) : Option (Introducer × Text) :=
  (Introducer.read? text).bind fun (introducer, rest) =>
    (body? (Text.trimLeft rest)).map fun body => (introducer, body)

/-- The leftmost markup comment of a line, given in reverse the part of the line that was passed
over already. -/
def scanFrom (passed : Text) : Text → Option MarkupComment
  | [] => none
  | c :: rest =>
    match read? (c :: rest) with
    | some (introducer, body) => some ⟨introducer, body, Text.trimRight passed.reverse⟩
    -- A comment that does not reach the end of the line is part of the code.
    | none => scanFrom (c :: passed) rest

/-- The markup comment at the end of a line. -/
def scan (line : Text) : Option MarkupComment := scanFrom [] line

end MarkupComment

end SnippetMarkup
