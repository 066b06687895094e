import SnippetMarkup.Program.Yaml.Property
import SnippetMarkup.Program.Yaml.Scalar.Plain
import SnippetMarkup.Program.Yaml.Scalar.Block

/-!
# The tokens of a text

The text is read from left to right.  The columns of the open block collections are kept, and a
collection is closed when a token stands to the left of it.  A key is recognised only by the colon
after it, so every token that may begin a key is remembered until the end of its line; when the
colon comes, the mark of the key is put in front of that token.
-/

namespace SnippetMarkup.Yaml

/-! ## Places -/

structure Cursor where
  rest : Text
  /-- The number of characters before the place. -/
  index : Nat := 0
  line : Nat := 0
  column : Nat := 0

namespace Cursor

/-- The mark that may stand at the start of a file.  It takes no column. -/
def byteOrderMark : Char := '\uFEFF'

def next (cursor : Cursor) : Cursor :=
  match cursor.rest with
  | [] => cursor
  | c :: rest =>
    if isBreak c then ⟨rest, cursor.index + 1, cursor.line + 1, 0⟩
    else
      ⟨rest, cursor.index + 1, cursor.line,
        if c = byteOrderMark then cursor.column else cursor.column + 1⟩

/-- The place after so many more characters. -/
def skip (cursor : Cursor) : Nat → Cursor
  | 0 => cursor
  | n + 1 => skip cursor.next n

/-- The place from which the given text remains. -/
def upTo (cursor : Cursor) (rest : Text) : Cursor :=
  cursor.skip (cursor.rest.length - rest.length)

end Cursor

/-! ## State -/

/-- A token that may turn out to begin a key. -/
structure PossibleKey where
  /-- How many collections in brackets the token is inside of. -/
  depth : Nat
  place : Nat
  index : Nat
  line : Nat
  column : Nat
  /-- Whether nothing else than a key may stand there. -/
  required : Bool

structure LexState where
  cursor : Cursor
  latestFirst : List Token := []
  /-- The columns of the open block collections, the innermost first. -/
  columns : List Nat := []
  depth : Nat := 0
  /-- Whether a key may begin at the next token. -/
  keyAllowed : Bool := true
  possibleKeys : List PossibleKey := []

namespace LexState

def emit (state : LexState) (token : Token) : LexState :=
  { state with latestFirst := token :: state.latestFirst }

/-- Goes on from the place where the given text remains. -/
def moveTo (state : LexState) (rest : Text) : LexState :=
  { state with cursor := state.cursor.upTo rest }

def skip (state : LexState) (n : Nat) : LexState :=
  { state with cursor := state.cursor.skip n }

/-- Says whether a key may begin at the next token. -/
def allowKey (state : LexState) (allowed : Bool) : LexState :=
  { state with keyAllowed := allowed }

/-- Whether the next token is inside of brackets. -/
def inFlow (state : LexState) : Bool := state.depth != 0

/-- The least column of what belongs to the innermost block collection. -/
def innerColumn (state : LexState) : Nat :=
  match state.columns with
  | [] => 0
  | column :: _ => column + 1

/-! ## Keys -/

/-- The greatest length of a key that has no mark of its own. -/
def longestKey : Nat := 1024

/-- Forgets the possible keys that end here without a colon. -/
def forget (state : LexState) (ends : PossibleKey → Bool) : Except Defect LexState :=
  if state.possibleKeys.any fun key => ends key && key.required then .error .malformed
  else .ok { state with possibleKeys := state.possibleKeys.filter fun key => !ends key }

/-- Forgets the possible keys that are on an earlier line or too far back. -/
def forgetStale (state : LexState) : Except Defect LexState :=
  state.forget fun key =>
    key.line != state.cursor.line || longestKey < state.cursor.index - key.index

/-- Forgets the possible key inside of the same brackets. -/
def forgetKey (state : LexState) : Except Defect LexState :=
  state.forget fun key => key.depth == state.depth

/-- Remembers that the next token may begin a key. -/
def rememberKey (state : LexState) : Except Defect LexState :=
  if state.keyAllowed then do
    -- At the column of an open collection nothing but one of its keys can stand.
    let required := !state.inFlow && state.columns.head? == some state.cursor.column
    let key : PossibleKey :=
      ⟨state.depth, state.latestFirst.length, state.cursor.index, state.cursor.line,
        state.cursor.column, required⟩
    let state ← state.forgetKey
    return { state with possibleKeys := key :: state.possibleKeys }
  else .ok state

/-! ## Indentation -/

/-- Closes the block collections to the right of a column; without one, all of them. -/
def closeBlocks (state : LexState) (column : Option Nat) : LexState :=
  if state.inFlow then state
  else
    let closed := state.columns.takeWhile fun opened => column.all (· < opened)
    { state with
      columns := state.columns.drop closed.length
      latestFirst := closed.map (fun _ => .blockEnd) ++ state.latestFirst }

/-- Opens a block collection at a column, unless one is open there, and puts its start in front of
the latest tokens. -/
def openBlock (state : LexState) (column : Nat) (token : Token) (latest : Nat) : LexState :=
  if state.inFlow || column < state.innerColumn then state
  else
    { state with
      columns := column :: state.columns
      latestFirst :=
        state.latestFirst.take latest ++ token :: state.latestFirst.drop latest }

/-! ## Tokens -/

/-- Passes over blanks, comments and line ends.  A key may begin on a new line. -/
def skipGaps (state : LexState) : Nat → LexState
  | 0 => state
  | fuel + 1 =>
    let rest := skipComment (skipSpaces state.cursor.rest)
    let state := state.moveTo rest
    match rest with
    | c :: _ =>
      if isBreak c then
        skipGaps { state.skip 1 with keyAllowed := state.keyAllowed || !state.inFlow } fuel
      else state
    | [] => state

/-- Reads a mark that stands between documents. -/
def readSeparator (state : LexState) (token : Token) : Except Defect LexState := do
  let state ← (state.closeBlocks none).forgetKey
  return ((state.allowKey false).skip 3).emit token

/-- Reads a bracket that opens a collection. -/
def readOpening (state : LexState) (token : Token) : Except Defect LexState := do
  let state ← state.rememberKey
  return ({ state with depth := state.depth + 1, keyAllowed := true }.skip 1).emit token

/-- Reads a bracket that closes a collection. -/
def readClosing (state : LexState) (token : Token) : Except Defect LexState := do
  if !state.inFlow then throw .malformed
  let state ← state.forgetKey
  return ({ state with depth := state.depth - 1, keyAllowed := false }.skip 1).emit token

/-- Reads a comma between the entries of a collection. -/
def readComma (state : LexState) : Except Defect LexState := do
  let state ← (state.allowKey true).forgetKey
  return (state.skip 1).emit .flowEntry

/-- Reads the mark of a sequence entry or of a key, which begins a collection in a block unless it
goes on with one. -/
def readMark (state : LexState) (collection token : Token) (allowed : Bool) :
    Except Defect LexState := do
  if !state.inFlow && !state.keyAllowed then throw .malformed
  let state := state.openBlock state.cursor.column collection 0
  let state ← (state.allowKey allowed).forgetKey
  return (state.skip 1).emit token

/-- Reads a colon.  The possible key inside of the same brackets is one; if there is none, the key
was marked or left out. -/
def readColon (state : LexState) : Except Defect LexState :=
  match state.possibleKeys.find? fun key => key.depth == state.depth with
  | none => state.readMark .blockMappingStart .value (!state.inFlow)
  | some key =>
    let latest := state.latestFirst.length - key.place
    let marked :=
      { state with
        possibleKeys := state.possibleKeys.filter fun other => other.depth != state.depth
        latestFirst :=
          state.latestFirst.take latest ++ Token.key :: state.latestFirst.drop latest }
    -- The mapping starts where its first key does, in front of the mark of the key.
    let opened := marked.openBlock key.column .blockMappingStart (latest + 1)
    .ok (((opened.allowKey false).skip 1).emit .value)

def readName (state : LexState) (token : Text → Token) : Except Defect LexState := do
  let state ← state.rememberKey
  let (name, rest) ← readAnchor (state.cursor.rest.drop 1)
  return ((state.allowKey false).moveTo rest).emit (token name)

def readTag (state : LexState) : Except Defect LexState := do
  let state ← state.rememberKey
  let (tag, rest) ← Yaml.readTag (state.cursor.rest.drop 1)
  return ((state.allowKey false).moveTo rest).emit (.tag tag)

def readDirective (state : LexState) : Except Defect LexState := do
  let state ← (state.closeBlocks none).forgetKey
  let (directive, rest) ← Yaml.readDirective (state.cursor.rest.drop 1)
  return ((state.allowKey false).moveTo rest).emit (.directive directive)

/-- Reads a block scalar.  A key may begin after it. -/
def readBlock (state : LexState) (folded : Bool) : Except Defect LexState := do
  let state ← (state.allowKey true).forgetKey
  let (value, rest) ←
    Block.read folded (max 1 state.innerColumn) (state.cursor.rest.drop 1)
  return (state.moveTo rest).emit (.scalar false value)

def readQuoted (state : LexState) (quote : Char) : Except Defect LexState := do
  let state ← state.rememberKey
  let (value, rest) ← Quoted.read quote (state.cursor.rest.drop 1)
  return ((state.allowKey false).moveTo rest).emit (.scalar false value)

/-- Reads a plain scalar.  A key may begin after it only on a new line. -/
def readPlain (state : LexState) : Except Defect LexState := do
  let state ← state.rememberKey
  let reading := Plain.read state.inFlow state.innerColumn state.cursor.rest
  return ((state.allowKey reading.brokeLine).moveTo reading.rest).emit
    (.scalar true reading.value)

/-- Whether a plain scalar may begin here. -/
def plainBegins (inFlow : Bool) : Text → Bool
  | [] => false
  | c :: rest =>
    if c == '-' || c == '?' || c == ':' then !atGap rest && (c == '-' || !inFlow)
    else
      !(isBlank c || isBreak c || Plain.isFlowMark c || "#&*!|>'\"%@\x60".contains c)

/-- Reads the token that begins with the given character. -/
def readToken (state : LexState) (c : Char) (rest : Text) : Except Defect LexState :=
  let atStart := state.cursor.column == 0
  let isMark := state.inFlow || atGap rest
  if atStart && c == '%' then state.readDirective
  else if atStart && startsWithMarker '-' (c :: rest) then state.readSeparator .documentStart
  else if atStart && startsWithMarker '.' (c :: rest) then state.readSeparator .documentEnd
  else
    match c with
    | '[' => state.readOpening .flowSequenceStart
    | '\x7b' => state.readOpening .flowMappingStart
    | ']' => state.readClosing .flowSequenceEnd
    | '\x7d' => state.readClosing .flowMappingEnd
    | ',' => state.readComma
    | '*' => state.readName .alias
    | '&' => state.readName .anchor
    | '!' => state.readTag
    | '\'' => state.readQuoted '\''
    | '"' => state.readQuoted '"'
    | _ =>
      if c == '-' && atGap rest then state.readMark .blockSequenceStart .blockEntry true
      else if c == '?' && isMark then
        state.readMark .blockMappingStart .key (!state.inFlow)
      else if c == ':' && isMark then state.readColon
      else if c == '|' && !state.inFlow then state.readBlock false
      else if c == '>' && !state.inFlow then state.readBlock true
      else if plainBegins state.inFlow (c :: rest) then state.readPlain
      else .error .malformed

/-- Reads all tokens from here on; gives them with the first one first. -/
def readAll (state : LexState) : Nat → Except Defect (List Token)
  | 0 => .error .malformed
  | fuel + 1 => do
    let state ← (state.skipGaps (state.cursor.rest.length + 1)).forgetStale
    let state := state.closeBlocks (some state.cursor.column)
    match state.cursor.rest with
    | [] => return (← (state.closeBlocks none).forgetKey).latestFirst.reverse
    | c :: rest => readAll (← state.readToken c rest) fuel

end LexState

def tokens (text : Text) : Except Defect (List Token) :=
  if text.all isPermitted then
    let start : Cursor := ⟨text, 0, 0, 0⟩
    let start := if text.head? = some Cursor.byteOrderMark then start.next else start
    LexState.readAll ⟨start, [], [], 0, true, []⟩ (text.length + 2)
  else .error .malformed

end SnippetMarkup.Yaml
