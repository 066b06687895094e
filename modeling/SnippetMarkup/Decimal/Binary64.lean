import SnippetMarkup.Text.Basic

/-!
# Binary floating-point numbers

The numbers of the 64-bit binary format, as exact values.  Decimal texts and the results of sums
and products are rounded to the nearest number, a tie to the even one, and a number is written
with the fewest digits that read back as the same number.
-/

namespace SnippetMarkup

/-- A number of the 64-bit binary format.  A finite number is a mantissa times a power of two. -/
inductive Binary64 where
  | notANumber
  | infinite (negative : Bool)
  | finite (negative : Bool) (mantissa : Nat) (exponent : Int)
  deriving DecidableEq, Repr

namespace Binary64

/-! ## Rounding -/

/-- A fraction with the power of two put into it. -/
def scaled (num den : Nat) (power : Int) : Nat × Nat :=
  if 0 ≤ power then (num * Nat.pow 2 power.toNat, den)
  else (num, den * Nat.pow 2 (-power).toNat)

/-- The natural number next to a fraction, the even one of two. -/
def roundToEven (num den : Nat) : Nat :=
  let whole := num / den
  let twice := 2 * (num % den)
  if twice < den ∨ (twice = den ∧ whole % 2 = 0) then whole else whole + 1

def leastExponent : Int := -1074

def greatestExponent : Int := 971

/-- The number of bits of a full mantissa. -/
def mantissaBits : Nat := 53

/-- The exponent with which a positive fraction has a mantissa of 53 bits, if that is not too
small an exponent. -/
def exponentOf (num den : Nat) : Int :=
  let guess := (num.log2 : Int) - den.log2 - mantissaBits
  let (n, d) := scaled num den (-guess)
  max leastExponent (if n / d < Nat.pow 2 mantissaBits then guess else guess + 1)

def ofFraction (negative : Bool) (num den : Nat) : Binary64 :=
  if num = 0 then finite negative 0 leastExponent
  else
    let exponent := exponentOf num den
    let (n, d) := scaled num den (-exponent)
    let mantissa := roundToEven n d
    -- Rounding up may fill the mantissa, which then has one bit too many.
    let (mantissa, exponent) :=
      if mantissa = Nat.pow 2 mantissaBits then (Nat.pow 2 (mantissaBits - 1), exponent + 1)
      else (mantissa, exponent)
    if greatestExponent < exponent then infinite negative else finite negative mantissa exponent

/-- The number next to `digits` times a power of ten.  Powers that are certainly too large or too
small are not worked out. -/
def ofDecimal (negative : Bool) (digits : Nat) (power : Int) : Binary64 :=
  let magnitude := (Text.ofNat digits).length + power
  if digits = 0 ∨ magnitude < -400 then finite negative 0 leastExponent
  else if 400 < magnitude then infinite negative
  else if 0 ≤ power then ofFraction negative (digits * Nat.pow 10 power.toNat) 1
  else ofFraction negative digits (Nat.pow 10 (-power).toNat)

/-! ## Arithmetic -/

/-- The size of a finite number as a fraction. -/
def fraction (mantissa : Nat) (exponent : Int) : Nat × Nat := scaled mantissa 1 exponent

def negate : Binary64 → Binary64
  | notANumber => notANumber
  | infinite negative => infinite (!negative)
  | finite negative mantissa exponent => finite (!negative) mantissa exponent

/-- The product of a number without a sign and a natural number. -/
def timesNat (number : Binary64) (factor : Nat) : Binary64 :=
  match number, ofFraction false factor 1 with
  | finite _ mantissa exponent, finite _ factor power =>
    let (num, den) := fraction mantissa exponent
    let (num, den) := scaled (num * factor) den power
    ofFraction false num den
  | other, _ => other

/-- The sum of two numbers without signs. -/
def plus : Binary64 → Binary64 → Binary64
  | finite _ mantissa exponent, finite _ mantissa' exponent' =>
    let (num, den) := fraction mantissa exponent
    let (num', den') := fraction mantissa' exponent'
    ofFraction false (num * den' + num' * den) (den * den')
  | finite .., other => other
  | other, _ => other

def isZero : Binary64 → Bool
  | finite _ mantissa _ => mantissa == 0
  | _ => false

/-! ## Writing -/

/-- The least power of ten above a positive fraction, looked for upwards from a guess. -/
def decimalPower (num den : Nat) : Nat → Int → Int
  | 0, guess => guess
  | fuel + 1, guess =>
    let above :=
      if 0 ≤ guess then num < den * Nat.pow 10 guess.toNat
      else num * Nat.pow 10 (-guess).toNat < den
    if above then guess else decimalPower num den fuel (guess + 1)

/-- The decimal with so many digits, the last of which counts a power of ten, that is next to a
positive fraction, if it reads back as the given number. -/
def shorter? (number : Binary64) (num den : Nat) (power : Int) : Option Nat :=
  let (n, d) :=
    if 0 ≤ power then (num, den * Nat.pow 10 power.toNat)
    else (num * Nat.pow 10 (-power).toNat, den)
  let nearest := roundToEven n d
  let other := if nearest = n / d then nearest + 1 else nearest - 1
  [nearest, other].find? fun digits => decide (ofDecimal false digits power = number)

/-- The greatest number of digits that are ever needed. -/
def mostDigits : Nat := 17

/-- The fewest digits that read back as a number of the given size, and the power of ten that the
last one counts. -/
def shortest (mantissa : Nat) (exponent : Int) : Nat × Int :=
  let (num, den) := fraction mantissa exponent
  let point := decimalPower num den 700 (-330)
  let found := (List.range mostDigits).findSome? fun count =>
    let power := point - ((count : Nat) + 1 : Nat)
    (shorter? (finite false mantissa exponent) num den power).map fun digits => (digits, power)
  found.getD (num / den, 0)

/-- A sequence of digits without the zeros at its end. -/
def dropEndZeros (digits : Text) : Text := (digits.reverse.dropWhile (· == '0')).reverse

/-- An exponent with its sign and at least two digits. -/
def exponentText (exponent : Int) : Text :=
  let digits := Text.ofNat exponent.natAbs
  (if exponent < 0 then ['e', '-'] else ['e', '+']) ++
    (if digits.length < 2 then '0' :: digits else digits)

/-- Digits with a decimal point after `point` of them, which may lie outside of them.  Positional
notation ends below 0.0001 and at ten to the sixteenth; there is always a digit on either side of
the point, except with an exponent. -/
def placePoint (digits : Text) (point : Int) : Text :=
  if point ≤ -4 ∨ 16 < point then
    match digits with
    | [] => []
    | [digit] => digit :: exponentText (point - 1)
    | digit :: more => digit :: '.' :: more ++ exponentText (point - 1)
  else if point ≤ 0 then
    ['0', '.'] ++ List.replicate (-point).toNat '0' ++ digits
  else
    let whole := digits.take point.toNat
    let rest := digits.drop point.toNat
    whole ++ List.replicate (point.toNat - whole.length) '0' ++ '.' ::
      (if rest.isEmpty then ['0'] else rest)

def toText : Binary64 → Text
  | notANumber => "nan".toList
  | infinite negative => (if negative then ['-'] else []) ++ "inf".toList
  | finite negative mantissa exponent =>
    (if negative then ['-'] else []) ++
      (if mantissa = 0 then "0.0".toList
      else
        let (digits, power) := shortest mantissa exponent
        let digits := Text.ofNat digits
        placePoint (dropEndZeros digits) (digits.length + power))

end Binary64

end SnippetMarkup
