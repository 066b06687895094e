import SnippetMarkup.Text.Basic
import SnippetMarkup.Program.NameTable

/-!
# Characters by name

A character is found by its name.  Korean syllables and Chinese characters have names by rule; the
names of the others stand in tables, and the case of their letters does not matter.  The tables have
the blocks that occur most, and a character of another block is not found.
-/

namespace SnippetMarkup.Unicode

/-! ## Korean syllables -/

/-- The names of the consonants that begin a syllable. -/
def initials : List String := [
  "G", "GG", "N", "D", "DD", "R", "M", "B", "BB", "S", "SS", "", "J", "JJ", "C", "K", "T", "P",
  "H"]

/-- The names of the vowels of a syllable. -/
def vowels : List String := [
  "A", "AE", "YA", "YAE", "EO", "E", "YEO", "YE", "O", "WA", "WAE", "OE", "YO", "U", "WEO", "WE",
  "WI", "YU", "EU", "YI", "I"]

/-- The names of the consonants that end a syllable. -/
def finals : List String := [
  "", "G", "GG", "GS", "N", "NJ", "NH", "D", "L", "LG", "LM", "LB", "LS", "LT", "LP", "LH", "M",
  "B", "BS", "S", "SS", "NG", "J", "C", "K", "T", "P", "H"]

/-- The number of the longest part with which a text begins, and the text after it. -/
def readPart? (parts : List String) (text : Text) : Option (Nat × Text) :=
  (parts.zipIdx.foldl (fun best (part, index) =>
    match part.toList.isPrefixOf? text, best with
    | some rest, some (_, shortest) =>
      if rest.length < shortest.length then some (index, rest) else best
    | some rest, none => some (index, rest)
    | none, _ => best) none)

/-- The first of the syllables, which are ordered by their parts. -/
def firstSyllable : Nat := 0xAC00

/-- The code point of the syllable whose parts have the given names. -/
def codeOfSyllable? (name : Text) : Option Nat := do
  let (initial, rest) ← readPart? initials name
  let (vowel, rest) ← readPart? vowels rest
  let (final, rest) ← readPart? finals rest
  if rest.isEmpty then
    some (firstSyllable + (initial * vowels.length + vowel) * finals.length + final)
  else none

/-! ## Chinese characters -/

def ideographs : List (Nat × Nat) := [
  (0x3400, 0x4DBF), (0x4E00, 0x9FFF), (0x20000, 0x2A6DF), (0x2A700, 0x2B738),
  (0x2B740, 0x2B81D), (0x2B820, 0x2CEA1), (0x2CEB0, 0x2EBE0), (0x30000, 0x3134A)]

/-- The value of a hexadecimal digit, whose letters are capitals. -/
def capitalHexValue? (c : Char) : Option Nat :=
  if c.isDigit then some (c.toNat - '0'.toNat)
  else if 'A' ≤ c ∧ c ≤ 'F' then some (c.toNat - 'A'.toNat + 10)
  else none

/-- The code point that is written in four or five hexadecimal digits, if it is that of a Chinese
character. -/
def codeOfIdeograph? (digits : Text) : Option Nat := do
  if digits.length ≠ 4 ∧ digits.length ≠ 5 then none
  let code ← digits.foldlM (fun n c => (capitalHexValue? c).map (16 * n + ·)) 0
  if ideographs.any fun (low, high) => low ≤ code && code ≤ high then some code else none

/-! ## All characters -/

/-- The names in a table, in order. -/
def NameTable.names (table : NameTable) : List Text :=
  table.lines.flatMap fun line => Text.cutAt [';'] line.toList

/-- The code point that has a name in a table. -/
def NameTable.codeOf? (table : NameTable) (name : Text) : Option Nat :=
  (table.names.idxOf? name).map (table.first + ·)

/-- The code point that has a name in one of the tables. -/
def codeInTables? (name : Text) : Option Nat :=
  if name.isEmpty then none
  else
    match NameTable.single.lookup (String.ofList name) with
    | some code => some code
    | none => NameTable.all.findSome? (·.codeOf? name)

/-- The code point of the character with the given name, if it is one of those in the tables or has
its name by rule. -/
def codeOfName? (name : Text) : Option Nat :=
  match "HANGUL SYLLABLE ".toList.isPrefixOf? name,
      "CJK UNIFIED IDEOGRAPH-".toList.isPrefixOf? name with
  | some syllable, _ => codeOfSyllable? syllable
  | none, some digits => codeOfIdeograph? digits
  | none, none => codeInTables? (name.map Char.toUpper)

end SnippetMarkup.Unicode
