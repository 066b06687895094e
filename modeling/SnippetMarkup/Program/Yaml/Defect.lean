import SnippetMarkup.Text.Quoted
import SnippetMarkup.Yaml.Loader

/-!
# Defects of YAML texts

A text may not be YAML at all, or a scalar in it may not be what its tag says it is.
-/

namespace SnippetMarkup.Yaml

/-- Why a YAML text cannot be read. -/
inductive Defect where
  /-- The text is no YAML document, or a node has a tag that it cannot have. -/
  | malformed
  | noCharacter
  /-- An escape denotes a number that is far beyond all characters. -/
  | hugeCharacter
  | emptyNumber
  /-- A number has other characters than the digits of its base. -/
  | badInteger (base : Nat) (written : Text)
  | badFloat (written : Text)
  | tooManyDigits (digits : Nat)
  | badBool (word : Text)
  | noDate
  /-- A part of a date does not exist. -/
  | badDate (reason : Text)
  deriving DecidableEq, Repr

def Defect.message : Defect → Text
  | malformed => "<yaml error>".toList
  | noCharacter => "chr() arg not in range(0x110000)".toList
  | hugeCharacter => "the number of the character is too large".toList
  | emptyNumber => "string index out of range".toList
  | badInteger base written =>
    "invalid literal for int() with base ".toList ++ Text.ofNat base ++ [':', ' '] ++
      Text.quoted written
  | badFloat written => "could not convert string to float: ".toList ++ Text.quoted written
  | tooManyDigits digits =>
    "Exceeds the limit (4300 digits) for integer string conversion: value has ".toList ++
      Text.ofNat digits ++
      " digits; use sys.set_int_max_str_digits() to increase the limit".toList
  | badBool word => Text.quoted word
  | noDate => "'NoneType' object has no attribute 'groupdict'".toList
  | badDate reason => reason

/-- The kind of a defect that is not one of the document. -/
def Defect.kind : Defect → Text
  | hugeCharacter => "overflow".toList
  | emptyNumber => "index".toList
  | badBool _ => "key".toList
  | noDate => "attribute".toList
  | _ => "value".toList

/-- What a defect makes a loader tell. -/
def Defect.fault : Defect → Fault
  | malformed => .malformed malformed.message
  | defect => .other defect.kind defect.message

end SnippetMarkup.Yaml
