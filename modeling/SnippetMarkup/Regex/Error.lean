import SnippetMarkup.Text.Quoted

/-!
# Errors in regular expressions

Why a pattern is refused and where.  A pattern with a line feed has its errors located by line
and column as well.
-/

namespace SnippetMarkup.Regex

inductive Cause where
  | danglingEscape
  | badEscape (escape : Text)
  | incompleteEscape (escape : Text)
  | octalTooLarge (escape : Text)
  | nameNotOpened
  | nameMissing (kind : Text)
  | nameUnterminated (terminator : Char)
  | unknownCharacter (name : Text)
  | badGroupName (name : Text)
  | unknownGroupName (name : Text)
  | redefinedGroup (name : Text) (index earlier : Nat)
  | badGroupNumber
  | invalidGroup (index : Nat)
  | openGroup
  | groupInLookbehind
  | unexpectedEnd
  | unknownExtension (text : Text)
  | unterminatedComment
  | unterminatedGroup
  | unterminatedSet
  | badRange (low high : Text)
  | threeBranches
  | misplacedFlags
  | localeFlag
  | clashingTextFlags
  | textFlagOff
  | globalFlagOn
  | globalFlagOff
  | flagOnAndOff
  | unknownFlag
  | flagMissing
  | flagEndMissing
  | colonMissing
  | nothingToRepeat
  | multipleRepeat
  | boundsReversed
  | unbalanced
  | variableLookbehind
  | repeatInTemplate (kind : Text)
  deriving DecidableEq, Repr

def Cause.message : Cause → Text
  | danglingEscape => "bad escape (end of pattern)".toList
  | badEscape escape => "bad escape ".toList ++ escape
  | incompleteEscape escape => "incomplete escape ".toList ++ escape
  | octalTooLarge escape =>
    "octal escape value ".toList ++ escape ++ " outside of range 0-0o377".toList
  | nameNotOpened => "missing \x7b".toList
  | nameMissing kind => "missing ".toList ++ kind
  | nameUnterminated terminator =>
    "missing ".toList ++ [terminator] ++ ", unterminated name".toList
  | unknownCharacter name => "undefined character name ".toList ++ Text.quoted name
  | badGroupName name => "bad character in group name ".toList ++ Text.quoted name
  | unknownGroupName name => "unknown group name ".toList ++ Text.quoted name
  | redefinedGroup name index earlier =>
    "redefinition of group name ".toList ++ Text.quoted name ++ " as group ".toList ++
      Text.ofNat index ++ "; was group ".toList ++ Text.ofNat earlier
  | badGroupNumber => "bad group number".toList
  | invalidGroup index => "invalid group reference ".toList ++ Text.ofNat index
  | openGroup => "cannot refer to an open group".toList
  | groupInLookbehind =>
    "cannot refer to group defined in the same lookbehind subpattern".toList
  | unexpectedEnd => "unexpected end of pattern".toList
  | unknownExtension text => "unknown extension ".toList ++ text
  | unterminatedComment => "missing ), unterminated comment".toList
  | unterminatedGroup => "missing ), unterminated subpattern".toList
  | unterminatedSet => "unterminated character set".toList
  | badRange low high => "bad character range ".toList ++ low ++ ['-'] ++ high
  | threeBranches => "conditional backref with more than two branches".toList
  | misplacedFlags => "global flags not at the start of the expression".toList
  | localeFlag => "bad inline flags: cannot use 'L' flag with a str pattern".toList
  | clashingTextFlags => "bad inline flags: flags 'a', 'u' and 'L' are incompatible".toList
  | textFlagOff => "bad inline flags: cannot turn off flags 'a', 'u' and 'L'".toList
  | globalFlagOn => "bad inline flags: cannot turn on global flag".toList
  | globalFlagOff => "bad inline flags: cannot turn off global flag".toList
  | flagOnAndOff => "bad inline flags: flag turned on and off".toList
  | unknownFlag => "unknown flag".toList
  | flagMissing => "missing flag".toList
  | flagEndMissing => "missing -, : or )".toList
  | colonMissing => "missing :".toList
  | nothingToRepeat => "nothing to repeat".toList
  | multipleRepeat => "multiple repeat".toList
  | boundsReversed => "min repeat greater than max repeat".toList
  | unbalanced => "unbalanced parenthesis".toList
  | variableLookbehind => "look-behind requires fixed-width pattern".toList
  | repeatInTemplate kind => "internal: unsupported template operator ".toList ++ kind

/-- An error: its cause, and the place in the pattern if it has one. -/
structure Error where
  cause : Cause
  position : Option Nat
  deriving DecidableEq, Repr

/-- The line and the column of a place in a pattern, both counted from one. -/
def lineAndColumn (pattern : Text) (position : Nat) : Nat × Nat :=
  let before := pattern.take position
  (before.count '\n' + 1, (before.reverse.takeWhile (· != '\n')).length + 1)

/-- What an error in the given pattern reads like. -/
def Error.message (error : Error) (pattern : Text) : Text :=
  match error.position with
  | none => error.cause.message
  | some position =>
    let located := error.cause.message ++ " at position ".toList ++ Text.ofNat position
    if pattern.contains '\n' then
      let (line, column) := lineAndColumn pattern position
      located ++ " (line ".toList ++ Text.ofNat line ++ ", column ".toList ++ Text.ofNat column ++
        [')']
    else located

/-- Why there is no expression for a pattern. -/
inductive Refusal where
  | invalid (error : Error)
  /-- A number of repetitions is beyond every limit. -/
  | repetitionTooLarge
  /-- A number is written with too many digits. -/
  | tooManyDigits (digits : Nat)
  /-- An escape denotes a number that is far beyond all characters. -/
  | hugeCharacter
  /-- The whole pattern is declared both for ASCII and for all scripts. -/
  | clashingGlobalFlags
  deriving DecidableEq, Repr

end SnippetMarkup.Regex
