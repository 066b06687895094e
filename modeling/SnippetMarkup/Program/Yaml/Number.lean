import SnippetMarkup.Decimal.Binary64
import SnippetMarkup.Program.Yaml.Defect
import SnippetMarkup.Unicode.Digit
import SnippetMarkup.Unicode.Casing
import SnippetMarkup.Regex.Parser

/-!
# Numbers in YAML

Whole numbers are written in base two, eight, ten, sixteen or sixty, other numbers in base ten or
sixty.  Underscores between digits have no meaning.
-/

namespace SnippetMarkup.Yaml.Number

/-! ## Forms -/

/-- A text without a sign at its start. -/
def dropSign : Text → Text
  | '+' :: rest => rest
  | '-' :: rest => rest
  | text => text

/-- Whether a text is a digit with digits and underscores after it. -/
def isDigits : Text → Bool
  | [] => false
  | c :: rest => c.isDigit && rest.all fun c => c.isDigit || c == '_'

/-- Whether a text is the part of a number in base sixty after a colon. -/
def isSixtieth : Text → Bool
  | [a] => a.isDigit
  | [a, b] => '0' ≤ a && a ≤ '5' && b.isDigit
  | _ => false

/-- Whether a text is a number in base sixty whose first part has the given form. -/
def isSixty (first : Text → Bool) (text : Text) : Bool :=
  match Text.cutAt [':'] text with
  | whole :: part :: parts => first whole && (part :: parts).all isSixtieth
  | _ => false

/-- Whether a text is not empty and has characters of a kind only. -/
def isAll (p : Char → Bool) (text : Text) : Bool := !text.isEmpty && text.all p

/-- Whether a text is a number that begins with a digit other than zero. -/
def isWhole (text : Text) : Bool := isDigits text && text.head? != some '0'

/-- Whether a character is a hexadecimal digit. -/
def isHexDigit (c : Char) : Bool := c.isDigit || ('a' ≤ c && c ≤ 'f') || ('A' ≤ c && c ≤ 'F')

/-- Whether a text has the form of a whole number. -/
def isIntForm (text : Text) : Bool :=
  let digits := dropSign text
  digits == ['0'] || isWhole digits || isSixty isWhole digits ||
    match digits with
    | '0' :: 'b' :: rest => isAll (fun c => c == '0' || c == '1' || c == '_') rest
    | '0' :: 'x' :: rest => isAll (fun c => isHexDigit c || c == '_') rest
    | '0' :: rest => isAll (fun c => ('0' ≤ c && c ≤ '7') || c == '_') rest
    | _ => false

/-- Whether a text is nothing, or an exponent with a sign. -/
def isExponent : Text → Bool
  | [] => true
  | 'e' :: sign :: digits | 'E' :: sign :: digits =>
    (sign == '+' || sign == '-') && isAll Char.isDigit digits
  | _ => false

/-- Whether a character is a digit or an underscore. -/
def isFill (c : Char) : Bool := c.isDigit || c == '_'

/-- Whether a text has the form of a number with a decimal point. -/
def isFloatForm (text : Text) : Bool :=
  let unsigned := dropSign text
  let positional : Bool :=
    match Text.splitFirst? '.' unsigned with
    | some (whole, rest) =>
      (isDigits whole && isExponent (rest.dropWhile isFill)) ||
        (isSixty isDigits whole && rest.all isFill)
    | none => false
  let pointFirst : Bool :=
    match text with
    | '.' :: digit :: rest => digit.isDigit && isExponent (rest.dropWhile isFill)
    | _ => false
  positional || pointFirst || [".inf", ".Inf", ".INF"].any (fun word => unsigned == word.toList) ||
    [".nan", ".NaN", ".NAN"].any fun word => text == word.toList

/-! ## Values -/

/-- A text without underscores, and whether it has a minus sign, which is left out. -/
def readSign (text : Text) : Except Defect (Bool × Text) :=
  match text.filter (· != '_') with
  | [] => .error .emptyNumber
  | '-' :: rest => .ok (true, rest)
  | '+' :: rest => .ok (false, rest)
  | text => .ok (false, text)

/-- The value of a digit in bases up to sixteen. -/
def digitValue? (c : Char) : Option Nat :=
  match Unicode.digitValue? c with
  | some value => some value
  | none =>
    if 'a' ≤ c ∧ c ≤ 'f' then some (c.toNat - 'a'.toNat + 10)
    else if 'A' ≤ c ∧ c ≤ 'F' then some (c.toNat - 'A'.toNat + 10)
    else none

/-- The number that digits of a base denote. -/
def digitsValue? (base : Nat) (digits : Text) : Option Nat :=
  if digits.isEmpty then none
  else
    digits.foldlM (fun n c =>
      (digitValue? c).bind fun value => if value < base then some (base * n + value) else none) 0

/-- A number in the digits of a base, with white space around it and a sign. -/
def readDigits (base : Nat) (text : Text) : Except Defect Int :=
  let trimmed := Text.trimLeft (Text.trimRight text)
  let digits := dropSign trimmed
  match digitsValue? base digits with
  | none => .error (.badInteger base text)
  | some value =>
    if base = 10 ∧ Text.digitLimit < digits.length then .error (.tooManyDigits digits.length)
    else .ok (if trimmed.head? = some '-' then -value else value)

/-- The whole number that a text denotes. -/
def readInt (text : Text) : Except Defect Int := do
  let (negative, digits) ← readSign text
  let size ←
    match digits with
    | [] => throw .emptyNumber
    | ['0'] => pure 0
    | '0' :: 'b' :: rest => readDigits 2 rest
    | '0' :: 'x' :: rest => readDigits 16 rest
    | '0' :: 'o' :: rest => readDigits 8 rest
    | '0' :: _ => readDigits 8 digits
    | _ =>
      if digits.contains ':' then
        (Text.cutAt [':'] digits).foldlM (fun (sum : Int) part => do
          return 60 * sum + (← readDigits 10 part)) 0
      else readDigits 10 digits
  return if negative then -size else size

/-- The digits that a text begins with. -/
def leadingDigits (text : Text) : Text := text.takeWhile Unicode.isDigit

/-- The exponent that a text is, if it is not something else; none is zero. -/
def exponent? : Text → Option Int
  | [] => some 0
  | 'e' :: rest =>
    let digits := dropSign rest
    if isAll Unicode.isDigit digits then
      let size : Int := Unicode.numeral digits
      some (if rest.head? = some '-' then -size else size)
    else none
  | _ => none

/-- The number without a sign that a text in small letters denotes. -/
def unsigned? (negative : Bool) (text : Text) : Option Binary64 :=
  if text = "inf".toList ∨ text = "infinity".toList then some (.infinite negative)
  else if text = "nan".toList then some .notANumber
  else
    let whole := leadingDigits text
    let afterWhole := text.drop whole.length
    let (part, rest) :=
      match afterWhole with
      | '.' :: after => (leadingDigits after, after.dropWhile Unicode.isDigit)
      | _ => ([], afterWhole)
    if whole.isEmpty && part.isEmpty then none
    else
      (exponent? rest).map fun exponent =>
        Binary64.ofDecimal negative (Unicode.numeral (whole ++ part)) (exponent - part.length)

/-- The number that a text in small letters denotes, with white space around it and a sign. -/
def readDecimal (text : Text) : Except Defect Binary64 :=
  let trimmed := Text.trimLeft (Text.trimRight text)
  match unsigned? (trimmed.head? == some '-') (dropSign trimmed) with
  | some number => .ok number
  | none => .error (.badFloat text)

/-- The sum of some numbers, each of which counts sixty times as much as the one after it. -/
def sumSixty (numbers : List Binary64) : Binary64 :=
  (numbers.reverse.foldl (fun (sum, weight) number =>
    (sum.plus (number.timesNat weight), 60 * weight))
    (Binary64.ofDecimal false 0 0, 1)).1

def readFloat (text : Text) : Except Defect Binary64 := do
  let (negative, digits) ← readSign (Unicode.lower text)
  if digits = ".nan".toList then return .notANumber
  let size ←
    if digits = ".inf".toList then pure (.infinite false)
    else if digits.contains ':' then
      return (if negative then Binary64.negate else id)
        (sumSixty (← (Text.cutAt [':'] digits).mapM readDecimal))
    else readDecimal digits
  return if negative then size.negate else size

end SnippetMarkup.Yaml.Number
