import SnippetMarkup.Unicode.Ranges

/-!
# White space

The characters that separate words: the bidirectional classes WS, B and S together with the
space separators.  The information separators U+001C to U+001F, the next-line character and the
no-break spaces belong here; the zero-width space and the byte-order mark do not.
-/

namespace SnippetMarkup.Unicode

def spaceRanges : List (Nat × Nat) :=
  [(0x9, 0xD), (0x1C, 0x20), (0x85, 0x85), (0xA0, 0xA0), (0x1680, 0x1680), (0x2000, 0x200A),
   (0x2028, 0x2029), (0x202F, 0x202F), (0x205F, 0x205F), (0x3000, 0x3000)]

def isSpace (c : Char) : Bool := covers spaceRanges c.toNat

/-- Whether a character is one of the six white-space characters of ASCII. -/
def isAsciiSpace (c : Char) : Bool := c == ' ' || (9 ≤ c.toNat && c.toNat ≤ 13)

end SnippetMarkup.Unicode
