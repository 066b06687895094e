import SnippetMarkup.Program.Yaml.Token
import SnippetMarkup.Program.Yaml.Scalar.Quoted
import SnippetMarkup.Encoding.Utf8

/-!
# Tags, anchors and directives

How the properties of a node and the lines before a document are read.
-/

namespace SnippetMarkup.Yaml

/-! ## Tags -/

/-- Whether a character may stand in a tag. -/
def isUriChar (c : Char) : Bool := c.isAlphanum || "-;/?:@&=+$,_.!~*'()[]%".contains c

/-- The bytes of some escapes in a tag, and the text after them. -/
def readUriBytes : Text → Except Defect (Bytes × Text)
  | '%' :: a :: b :: rest =>
    match Quoted.hexNumber? [a, b] with
    | none => .error .malformed
    | some byte => (readUriBytes rest).map fun (bytes, rest) => (UInt8.ofNat byte :: bytes, rest)
  | '%' :: _ => .error .malformed
  | rest => .ok ([], rest)

/-- A tag, or a part of one, with its escapes resolved, after a part that was read. -/
def readUriRest (value : Text) : Nat → Text → Except Defect (Text × Text)
  | 0, _ => .error .malformed
  | fuel + 1, text =>
    match text with
    | '%' :: _ => do
      let (bytes, rest) ← readUriBytes text
      match Utf8.decode bytes with
      | .ok decoded => readUriRest (value ++ decoded) fuel rest
      | .error _ => throw .malformed
    | c :: rest => if isUriChar c then readUriRest (value ++ [c]) fuel rest else .ok (value, text)
    | [] => .ok (value, [])

/-- A tag, or a part of one, which must not be empty. -/
def readUri (text : Text) : Except Defect (Text × Text) :=
  if text.head?.any isUriChar then readUriRest [] (text.length + 1) text else .error .malformed

/-- The handle at the start of a text: an exclamation mark, or two with a name between them. -/
def readHandle : Text → Except Defect (Text × Text)
  | '!' :: ' ' :: rest => .ok (['!'], ' ' :: rest)
  | '!' :: rest =>
    match rest.dropWhile isNameChar with
    | '!' :: after => .ok ('!' :: rest.takeWhile isNameChar ++ ['!'], after)
    | _ => .error .malformed
  | _ => .error .malformed

def readTag (rest : Text) : Except Defect (WrittenTag × Text) := do
  let (tag, after) ←
    match rest with
    | '<' :: inside => do
      let (suffix, after) ← readUri inside
      match after with
      | '>' :: after => pure ((⟨none, suffix⟩ : WrittenTag), after)
      | _ => throw .malformed
    | _ =>
      if atGap rest then pure (⟨none, ['!']⟩, rest)
      else do
        let word := rest.takeWhile fun c => c != ' ' && !isBreak c
        let (handle, after) ←
          if word.contains '!' then readHandle ('!' :: rest) else pure (['!'], rest)
        let (suffix, after) ← readUri after
        pure (⟨some handle, suffix⟩, after)
  if atBlankOrBreak after then return (tag, after) else throw .malformed

/-! ## Anchors -/

/-- The name after the mark of an anchor or an alias. -/
def readAnchor (rest : Text) : Except Defect (Text × Text) :=
  let name := rest.takeWhile isNameChar
  let after := rest.dropWhile isNameChar
  let endsName := atGap after || after.head?.any fun c => "?:,]\x7d%@\x60".contains c
  if name.isEmpty || !endsName then .error .malformed else .ok (name, after)

/-! ## Directives -/

/-- The number that a text begins with. -/
def readVersionPart (text : Text) : Except Defect (Nat × Text) :=
  let digits := text.takeWhile Char.isDigit
  if digits.isEmpty then .error .malformed
  else .ok (digits.foldl (fun n c => 10 * n + (c.toNat - '0'.toNat)) 0, text.dropWhile Char.isDigit)

/-- The version after the name of its directive. -/
def readVersion (text : Text) : Except Defect (Directive × Text) := do
  let (major, rest) ← readVersionPart (skipSpaces text)
  match rest with
  | '.' :: rest => do
    let (_, rest) ← readVersionPart rest
    if atBlankOrBreak rest then return (.version major, rest) else throw .malformed
  | _ => throw .malformed

/-- The handle and its meaning after the name of their directive. -/
def readHandleMeaning (text : Text) : Except Defect (Directive × Text) := do
  let (handle, rest) ← readHandle (skipSpaces text)
  if rest.head? ≠ some ' ' then throw .malformed
  let (meaning, rest) ← readUri (skipSpaces rest)
  if atBlankOrBreak rest then return (.handle handle meaning, rest) else throw .malformed

/-- The directive after its mark, with its whole line. -/
def readDirective (text : Text) : Except Defect (Directive × Text) := do
  let name := text.takeWhile isNameChar
  let rest := text.dropWhile isNameChar
  if name.isEmpty || !atBlankOrBreak rest then throw .malformed
  let (directive, rest) ←
    if name = "YAML".toList then readVersion rest
    else if name = "TAG".toList then readHandleMeaning rest
    else pure (.reserved, skipLine rest)
  match restOfLine? rest with
  | some lines => return (directive, lines)
  | none => throw .malformed

end SnippetMarkup.Yaml
