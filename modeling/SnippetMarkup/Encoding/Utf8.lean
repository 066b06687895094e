import SnippetMarkup.Encoding.Error

/-!
# UTF-8

A character takes one to four bytes.  The first byte says how many follow; every byte that follows
has `10` as its highest bits, and the range of the second one excludes overlong forms, surrogates
and everything beyond the last code point.
-/

namespace SnippetMarkup.Utf8

def encode (text : Text) : Bytes := text.flatMap String.utf8EncodeChar

/-- How many bytes follow a first byte, the range of the second byte, and the bits that the first
byte contributes. -/
def lead? (first : UInt8) : Option (Nat × Nat × Nat × Nat) :=
  let b := first.toNat
  if b < 0xC2 then none
  else if b < 0xE0 then some (1, 0x80, 0xBF, b - 0xC0)
  else if b < 0xF0 then
    some (2, if b = 0xE0 then 0xA0 else 0x80, if b = 0xED then 0x9F else 0xBF, b - 0xE0)
  else if b < 0xF5 then
    some (3, if b = 0xF0 then 0x90 else 0x80, if b = 0xF4 then 0x8F else 0xBF, b - 0xF0)
  else none

/-- What stands at the start of some bytes. -/
inductive Unit where
  /-- A code point, and the number of bytes after the first that it takes. -/
  | code (n following : Nat)
  | badStart
  /-- The byte after some good ones does not continue the character. -/
  | badContinuation (good : Nat)
  | cut
  deriving DecidableEq, Repr

/-- Reads `following` more bytes of a character, of which some have been read. -/
def readFollowing (low high value read : Nat) : Nat → Bytes → Unit
  | 0, _ => .code value read
  | _ + 1, [] => .cut
  | following + 1, byte :: rest =>
    let b := byte.toNat
    if b < low ∨ high < b then .badContinuation (read + 1)
    else readFollowing 0x80 0xBF (64 * value + (b - 0x80)) (read + 1) following rest

/-- Reads the character that begins with the given byte. -/
def readUnit (first : UInt8) (rest : Bytes) : Unit :=
  if first.toNat < 0x80 then .code first.toNat 0
  else
    match lead? first with
    | none => .badStart
    | some (following, low, high, value) => readFollowing low high value 0 following rest

/-- The text of some bytes that follow `place` others.  Unless the bytes are `final`, an
incomplete character at the end is left over. -/
def decodeFrom (place : Nat) (final : Bool) : Bytes → Except DecodeError (Text × Bytes)
  | [] => .ok ([], [])
  | first :: rest =>
    match readUnit first rest with
    | .code n following =>
      (decodeFrom (place + following + 1) final (rest.drop following)).map
        fun (text, left) => (Char.ofNat n :: text, left)
    | .badStart => .error ⟨"utf-8".toList, place, [first], "invalid start byte".toList⟩
    | .badContinuation good =>
      .error ⟨"utf-8".toList, place, (first :: rest).take good,
        "invalid continuation byte".toList⟩
    | .cut =>
      if final then
        .error ⟨"utf-8".toList, place, first :: rest, "unexpected end of data".toList⟩
      else .ok ([], first :: rest)
termination_by bytes => bytes.length
decreasing_by simp only [List.length_drop, List.length_cons]; omega

def decode (bytes : Bytes) : Except DecodeError Text :=
  (decodeFrom 0 true bytes).map (·.1)

/-- The number of bytes that a stream takes at a time. -/
def blockSize : Nat := 8192

/-- The text of some bytes that are taken block by block.  Places in errors are counted from the
bytes that were left over from the block before. -/
def decodeBlocks (left : Bytes) : Nat → Bytes → Except DecodeError Text
  | 0, _ => .ok []
  | fuel + 1, bytes =>
    match bytes with
    | [] => decode left
    | _ => do
      let (text, left) ← decodeFrom 0 false (left ++ bytes.take blockSize)
      return text ++ (← decodeBlocks left fuel (bytes.drop blockSize))

/-- The text of some bytes that are read as a stream. -/
def decodeStream (bytes : Bytes) : Except DecodeError Text :=
  decodeBlocks [] (bytes.length / blockSize + 2) bytes

end SnippetMarkup.Utf8
