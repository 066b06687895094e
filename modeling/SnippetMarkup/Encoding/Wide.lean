import SnippetMarkup.Encoding.Error

/-!
# UTF-16 and UTF-32

Characters in units of two or four bytes, the lower or the higher byte first.
-/

namespace SnippetMarkup.Wide

/-- The order of the bytes in a unit. -/
inductive ByteOrder where
  | little
  | big
  deriving DecidableEq, Repr

/-- The end of the name of an encoding with the given order. -/
def ByteOrder.suffix : ByteOrder → Text
  | little => "-le".toList
  | big => "-be".toList

def ByteOrder.value (order : ByteOrder) (bytes : Bytes) : Nat :=
  let highFirst := match order with
    | little => bytes.reverse
    | big => bytes
  highFirst.foldl (fun n byte => 256 * n + byte.toNat) 0

/-! ## UTF-16 -/

/-- The text of some bytes that follow `place` others, in units of two bytes. -/
def decode16 (order : ByteOrder) (place : Nat) : Bytes → Except DecodeError Text
  | [] => .ok []
  | [byte] => fail place [byte] "truncated data"
  | a :: b :: rest =>
    let unit := order.value [a, b]
    if unit < 0xD800 ∨ 0xDFFF < unit then
      (decode16 order (place + 2) rest).map (Char.ofNat unit :: ·)
    -- A second half without a first one.
    else if 0xDC00 ≤ unit then fail place [a, b] "illegal encoding"
    else
      match rest with
      | c :: d :: rest =>
        let low := order.value [c, d]
        if 0xDC00 ≤ low ∧ low ≤ 0xDFFF then
          let code := 0x10000 + 0x400 * (unit - 0xD800) + (low - 0xDC00)
          (decode16 order (place + 4) rest).map (Char.ofNat code :: ·)
        else fail place [a, b] "illegal UTF-16 surrogate"
      | rest => fail place (a :: b :: rest) "unexpected end of data"
where
  fail (start : Nat) (bytes : Bytes) (reason : String) : Except DecodeError Text :=
    .error ⟨"utf-16".toList ++ order.suffix, start, bytes, reason.toList⟩

/-! ## UTF-32 -/

/-- The text of some bytes that follow `place` others, in units of four bytes. -/
def decode32 (order : ByteOrder) (place : Nat) : Bytes → Except DecodeError Text
  | [] => .ok []
  | a :: b :: c :: d :: rest =>
    let unit := order.value [a, b, c, d]
    if 0xD800 ≤ unit ∧ unit ≤ 0xDFFF then
      fail place [a, b, c, d] "code point in surrogate code point range"
    else if 0x10FFFF < unit then fail place [a, b, c, d] "code point not in range(0x110000)"
    else (decode32 order (place + 4) rest).map (Char.ofNat unit :: ·)
  | bytes => fail place bytes "truncated data"
where
  fail (start : Nat) (bytes : Bytes) (reason : String) : Except DecodeError Text :=
    .error ⟨"utf-32".toList ++ order.suffix, start, bytes, reason.toList⟩

/-! ## Byte-order marks -/

/-- The byte order that a mark of two bytes at the start declares, and the bytes after it. -/
def mark16? : Bytes → Option (ByteOrder × Bytes)
  | 0xFF :: 0xFE :: rest => some (.little, rest)
  | 0xFE :: 0xFF :: rest => some (.big, rest)
  | _ => none

/-- The byte order that a mark of four bytes at the start declares, and the bytes after it. -/
def mark32? : Bytes → Option (ByteOrder × Bytes)
  | 0xFF :: 0xFE :: 0 :: 0 :: rest => some (.little, rest)
  | 0 :: 0 :: 0xFE :: 0xFF :: rest => some (.big, rest)
  | _ => none

end SnippetMarkup.Wide
