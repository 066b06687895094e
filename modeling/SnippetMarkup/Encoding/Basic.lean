import SnippetMarkup.Encoding.Utf8
import SnippetMarkup.Encoding.Wide

/-!
# Encodings by name

How the bytes of a snippet file become text.  What is read with a table of encodings is read with
any; the one that is given here has UTF-8, UTF-16, UTF-32, ASCII, Latin-1 and the Western code page.
Its names are compared without regard to case, and any run of other characters than letters, digits
and full stops counts as one underscore.
-/

namespace SnippetMarkup

/-- How the bytes of a file stand for text. -/
inductive Encoding where
  | utf8
  /-- With a mark at the start, which is not part of the text. -/
  | utf8Marked
  | ascii
  | latin1
  | windows1252
  /-- In an order that a mark at the start declares. -/
  | utf16Marked
  | utf16 (order : Wide.ByteOrder)
  /-- In an order that a mark at the start declares. -/
  | utf32Marked
  | utf32 (order : Wide.ByteOrder)
  deriving DecidableEq, Repr

namespace Encoding

/-! ## Names -/

/-- The name of an encoding in the form in which names are compared; `gap` says that other
characters came just before. -/
def normalize (gap started : Bool) : Text → Text
  | [] => []
  | c :: rest =>
    if c.isAlphanum || c == '.' then
      let folded := c.toLower :: normalize false true rest
      if gap && started then '_' :: folded else folded
    else normalize true started rest

/-- The names of the encodings that are known here.  Systems know others. -/
def names : List (Encoding × List String) := [
  (utf8, ["utf_8", "u8", "utf", "utf8", "utf8_ucs2", "utf8_ucs4", "cp65001"]),
  (utf8Marked, ["utf_8_sig"]),
  (ascii, ["ascii", "646", "ansi_x3.4_1968", "ansi_x3_4_1968", "ansi_x3.4_1986", "cp367",
    "csascii", "ibm367", "iso646_us", "iso_646.irv_1991", "iso_ir_6", "us", "us_ascii"]),
  (latin1, ["latin_1", "8859", "cp819", "csisolatin1", "ibm819", "iso8859", "iso8859_1",
    "iso_8859_1", "iso_8859_1_1987", "iso_ir_100", "l1", "latin", "latin1"]),
  (windows1252, ["cp1252", "1252", "windows_1252"]),
  (utf16Marked, ["utf_16", "u16", "utf16"]),
  (utf16 .little, ["utf_16_le", "unicodelittleunmarked", "utf_16le"]),
  (utf16 .big, ["utf_16_be", "unicodebigunmarked", "utf_16be"]),
  (utf32Marked, ["utf_32", "u32", "utf32"]),
  (utf32 .little, ["utf_32_le", "utf_32le"]),
  (utf32 .big, ["utf_32_be", "utf_32be"])]

def ofName? (name : Text) : Option Encoding :=
  let normal := String.ofList (normalize false false name)
  (names.find? fun (_, known) => known.contains normal).map (·.1)

/-! ## Decoding -/

inductive Failure where
  | undecodable (error : DecodeError)
  /-- The mark for the byte order is missing. -/
  | unmarked (name : Text)
  deriving DecidableEq, Repr

/-- The text of bytes below 128 that follow `place` others. -/
def decodeAscii (place : Nat) : Bytes → Except DecodeError Text
  | [] => .ok []
  | byte :: rest =>
    if byte.toNat < 128 then (decodeAscii (place + 1) rest).map (Char.ofNat byte.toNat :: ·)
    else .error ⟨"ascii".toList, place, [byte], "ordinal not in range(128)".toList⟩

/-- The code points of the bytes from 128 to 159 in the Western code page, zero for none. -/
def windows1252High : List Nat := [
  0x20AC, 0, 0x201A, 0x0192, 0x201E, 0x2026, 0x2020, 0x2021, 0x02C6, 0x2030, 0x0160, 0x2039,
  0x0152, 0, 0x017D, 0, 0, 0x2018, 0x2019, 0x201C, 0x201D, 0x2022, 0x2013, 0x2014, 0x02DC, 0x2122,
  0x0161, 0x203A, 0x0153, 0, 0x017E, 0x0178]

/-- The text of bytes of the Western code page that follow `place` others. -/
def decodeWindows1252 (place : Nat) : Bytes → Except DecodeError Text
  | [] => .ok []
  | byte :: rest =>
    let b := byte.toNat
    let code := if b < 128 then b else windows1252High.getD (b - 128) b
    if code = 0 ∧ b ≠ 0 then
      .error ⟨"charmap".toList, place, [byte], "character maps to <undefined>".toList⟩
    else (decodeWindows1252 (place + 1) rest).map (Char.ofNat code :: ·)

def decode (encoding : Encoding) (bytes : Bytes) : Except Failure Text :=
  let checked (decoded : Except DecodeError Text) : Except Failure Text :=
    decoded.mapError .undecodable
  match encoding with
  | utf8 => checked (Utf8.decode bytes)
  | utf8Marked =>
    match bytes with
    | 0xEF :: 0xBB :: 0xBF :: rest => checked (Utf8.decode rest)
    | _ => checked (Utf8.decode bytes)
  | ascii => checked (decodeAscii 0 bytes)
  | latin1 => .ok (bytes.map fun byte => Char.ofNat byte.toNat)
  | windows1252 => checked (decodeWindows1252 0 bytes)
  | utf16 order => checked (Wide.decode16 order 0 bytes)
  | utf32 order => checked (Wide.decode32 order 0 bytes)
  | utf16Marked =>
    match Wide.mark16? bytes with
    | some (order, rest) => checked (Wide.decode16 order 2 rest)
    | none => do
      -- Bytes that cannot be decoded are reported before the missing mark.
      let _ ← checked (Wide.decode16 .little 0 bytes)
      if bytes = [] then return [] else throw (.unmarked "UTF-16".toList)
  | utf32Marked =>
    match Wide.mark32? bytes with
    | some (order, rest) => checked (Wide.decode32 order 4 rest)
    | none => do
      -- Bytes that cannot be decoded are reported before the missing mark.
      let _ ← checked (Wide.decode32 .little 0 bytes)
      if bytes = [] then return [] else throw (.unmarked "UTF-32".toList)

end Encoding

/-! ## Tables of encodings -/

/-- Decodes the bytes of a file in the encoding with a name; none if there is no such encoding. -/
def Codecs := Text → Option (Bytes → Except Encoding.Failure Text)

def Codecs.known : Codecs := fun name => (Encoding.ofName? name).map Encoding.decode

end SnippetMarkup
