import SnippetMarkup.Text.Basic

/-!
# Undecodable bytes

Why a sequence of bytes is not the encoding of a text.
-/

namespace SnippetMarkup

abbrev Bytes := List UInt8

structure DecodeError where
  codec : Text
  /-- The place of the first of the bytes. -/
  start : Nat
  bytes : Bytes
  reason : Text
  deriving DecidableEq, Repr

namespace DecodeError

def byteText (byte : UInt8) : Text :=
  [Nat.digitChar (byte.toNat / 16), Nat.digitChar (byte.toNat % 16)]

def message (error : DecodeError) : Text :=
  let place :=
    match error.bytes with
    | [byte] =>
      "byte 0x".toList ++ byteText byte ++ " in position ".toList ++ Text.ofNat error.start
    | bytes =>
      "bytes in position ".toList ++ Text.ofNat error.start ++ ['-'] ++
        Text.ofNat (error.start + bytes.length - 1)
  ['\''] ++ error.codec ++ "' codec can't decode ".toList ++ place ++ [':', ' '] ++ error.reason

end DecodeError

end SnippetMarkup
