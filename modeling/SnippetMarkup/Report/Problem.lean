import SnippetMarkup.Markup.Tag
import SnippetMarkup.Regex.Error

/-!
# Problems in snippets

What can be wrong with the markup of a snippet.  A problem never stops a run: the tag that has it
is passed over, and the problem is written into the journal.
-/

namespace SnippetMarkup

inductive Problem where
  /-- A tag has an attribute that it does not accept. -/
  | invalidAttribute (tag : Tag) (name : Text)
  | invalidRegex (pattern : Text) (error : Regex.Error)
  /-- There is no way of highlighting with this name. -/
  | unknownStyle (name : Text)
  /-- A replace tag does not say by what. -/
  | missingReplacement
  /-- A link tag does not say where to. -/
  | missingTarget
  /-- Nothing is known under the target of a link. -/
  | unresolvedTarget (target : Text)
  /-- A comment is meant for the next line and there is none. -/
  | danglingContinuation
  | startWithoutRegion
  /-- An end tag names a region that is not open. -/
  | unknownRegion (name : Text)
  /-- An end tag has nothing to close. -/
  | unmatchedEnd
  | unclosedRegions (names : List Text)
  /-- The region that was asked for does not end. -/
  | unclosedExtraction
  | unresolvedSnippet
  /-- The two bodies of a snippet are not the same. -/
  | bodiesDiffer (origin : Text)
  deriving DecidableEq, Repr

def Problem.message : Problem → Text
  | invalidAttribute tag name =>
    "invalid attribute ".toList ++ name ++ " used in ".toList ++ tag.written ++ " tag".toList
  | invalidRegex pattern error =>
    "invalid regex ".toList ++ pattern ++ " (".toList ++ error.message pattern ++ [')']
  | unknownStyle name => "invalid argument for `@highlight` type ".toList ++ name
  | missingReplacement => "specify `replacement` attribute for @replace markup tag".toList
  | missingTarget => "specify `target` attribute for @link markup tag".toList
  | unresolvedTarget target => "unresolved target for @link tag: ".toList ++ target
  | danglingContinuation =>
    "don't place markup comment with ending `:` at the last line of snippet".toList
  | startWithoutRegion => "tag @start without specified region attribute".toList
  | unknownRegion name => "invalid region \"".toList ++ name ++ "\" in @end".toList
  | unmatchedEnd => "`@end` tag without a matching start of the region".toList
  | unclosedRegions names =>
    "snippet body contains unclosed regions: ".toList ++ Text.commaList names
  | unclosedExtraction => "external snippet does not contain closing @end tag".toList
  | unresolvedSnippet => "unable to resolve snippet".toList
  | bodiesDiffer origin =>
    "inline and external snippet bodies differ (".toList ++ origin ++ [')']

inductive MarkupFailure where
  /-- A pattern asks for too many repetitions. -/
  | repetitionTooLarge
  /-- A pattern has an escape for a number that is far beyond all characters. -/
  | hugeCharacter
  /-- A pattern is declared both for ASCII and for all scripts. -/
  | clashingGlobalFlags
  /-- A number is written with too many digits. -/
  | tooManyDigits (digits : Nat)
  deriving DecidableEq, Repr

def MarkupFailure.message : MarkupFailure → Text
  | repetitionTooLarge => "the repetition number is too large".toList
  | hugeCharacter => "the number of the character is too large".toList
  | clashingGlobalFlags => "ASCII and UNICODE flags are incompatible".toList
  | tooManyDigits digits =>
    "Exceeds the limit (4300 digits) for integer string conversion: value has ".toList ++
      Text.ofNat digits ++
      " digits; use sys.set_int_max_str_digits() to increase the limit".toList

end SnippetMarkup
