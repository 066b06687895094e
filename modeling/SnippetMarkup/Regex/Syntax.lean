import SnippetMarkup.Text.Basic
import SnippetMarkup.Unicode.Word
import SnippetMarkup.Unicode.Digit
import SnippetMarkup.Unicode.Casing

/-!
# Regular expressions

The expressions that `regex=` attributes give, as trees.  Flags are resolved while a pattern is
read, so every node says by itself how it compares characters.
-/

namespace SnippetMarkup.Regex

/-! ## Single characters -/

inductive Folding where
  | exact
  /-- Also the two cases of an ASCII letter. -/
  | ascii
  /-- Also the cases of a letter of any script. -/
  | unicode
  deriving DecidableEq, Repr

/-- The code points that count as equal to the given one. -/
def Folding.equals (folding : Folding) (n : Nat) : List Nat :=
  match folding with
  | exact => [n]
  | ascii => Unicode.asciiLowerSources (Unicode.asciiLowerCode n)
  | unicode => (Unicode.caseSiblings (Unicode.lowerCode n)).flatMap Unicode.lowerSources

/-- The representative by which a repeated text is compared. -/
def Folding.lower (folding : Folding) (c : Char) : Nat :=
  match folding with
  | exact => c.toNat
  | ascii => Unicode.asciiLowerCode c.toNat
  | unicode => Unicode.lowerCode c.toNat

/-- The classes of characters that have an escape of their own. -/
inductive CharClass where
  | digit
  | space
  | word
  deriving DecidableEq, Repr

/-- Whether a character is in a class, or in its ASCII part. -/
def CharClass.contains (kind : CharClass) (ascii : Bool) (c : Char) : Bool :=
  match kind with
  | digit => if ascii then c.isDigit else Unicode.isDigit c
  | space => if ascii then Unicode.isAsciiSpace c else Unicode.isSpace c
  | word => if ascii then Unicode.isAsciiWord c else Unicode.isWord c

/-- A member of a character set.  Code points need not be characters: a pattern may name a
surrogate, which no text contains. -/
inductive SetItem where
  | single (code : Nat)
  | range (low high : Nat)
  | charClass (kind : CharClass) (ascii negated : Bool)
  deriving DecidableEq, Repr

/-- Whether a set member covers a character. -/
def SetItem.covers (item : SetItem) (folding : Folding) (c : Char) : Bool :=
  match item with
  | single code => (folding.equals c.toNat).contains code
  | range low high => (folding.equals c.toNat).any fun n => low ≤ n && n ≤ high
  | charClass kind ascii negated => kind.contains ascii c != negated

/-! ## Places -/

/-- Conditions on the place between two characters. -/
inductive Anchor where
  | textStart
  /-- The start of the text or of a line. -/
  | lineStart
  /-- The end of the text, or the place before its final line feed. -/
  | textEnd
  /-- The end of the text or of a line. -/
  | lineEnd
  | veryEnd
  /-- Between a word character and another, or not so. -/
  | wordEdge (ascii negated : Bool)
  deriving DecidableEq, Repr

/-! ## Expressions -/

/-- In which order the numbers of repetitions are tried. -/
inductive Greed where
  | greedy
  | reluctant
  | possessive
  deriving DecidableEq, Repr

inductive Node where
  | empty
  | fail
  /-- One character that equals the given one. -/
  | char (code : Nat) (folding : Folding)
  /-- One character inside or outside of a set. -/
  | set (negated : Bool) (items : List SetItem) (folding : Folding)
  /-- One character; a line feed only if `lineFeed` says so. -/
  | any (lineFeed : Bool)
  | place (anchor : Anchor)
  | seq (first second : Node)
  /-- The first expression or else the second. -/
  | alt (first second : Node)
  | repeated (least : Nat) (most : Option Nat) (greed : Greed) (body : Node)
  /-- An expression in brackets that have no number. -/
  | bracket (body : Node)
  /-- An expression whose text is remembered under a number. -/
  | group (index : Nat) (body : Node)
  /-- An expression that keeps to its first match. -/
  | atomic (body : Node)
  /-- A condition on the text that follows. -/
  | ahead (negated : Bool) (body : Node)
  /-- A condition on the text of fixed width that stands before. -/
  | behind (negated : Bool) (width : Nat) (body : Node)
  | again (index : Nat) (folding : Folding)
  /-- One expression if a group took part, else the other. -/
  | choice (index : Nat) (yes no : Node)
  deriving Repr

namespace Node

def ofList : List Node → Node
  | [] => empty
  | [node] => node
  | node :: rest => seq node (ofList rest)

def ofAlternatives : List Node → Node
  | [] => fail
  | [node] => node
  | node :: rest => alt node (ofAlternatives rest)

end Node

end SnippetMarkup.Regex
