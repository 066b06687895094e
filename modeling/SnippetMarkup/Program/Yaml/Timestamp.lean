import SnippetMarkup.Yaml.Moment
import SnippetMarkup.Program.Yaml.Defect

/-!
# Reading dates and times

The forms in which a date is written, with a time of day and a distance from universal time if they
are given.
-/

namespace SnippetMarkup.Yaml.Moment

/-! ## Forms -/

/-- The parts of a date as they are written. -/
structure Written where
  year : Text
  month : Text
  day : Text
  /-- Hour, minute, second and the fraction of a second. -/
  time : Option (Text × Text × Text × Text) := none
  isUniversal : Bool := false
  /-- The sign, the hours and the minutes of the distance from universal time. -/
  offset : Option (Char × Text × Text) := none

/-- Reads at least `least` and at most `most` digits. -/
def readDigits (least most : Nat) (text : Text) : Option (Text × Text) :=
  let digits := (text.take most).takeWhile Char.isDigit
  if digits.length < least then none else some (digits, text.drop digits.length)

def readChar (c : Char) : Text → Option Text
  | [] => none
  | first :: rest => if first = c then some rest else none

/-- Whether a character is a blank or a tab. -/
def isBlank (c : Char) : Bool := c == ' ' || c == '\t'

/-- Reads what follows the second: a fraction, and the distance from universal time. -/
def readZone (written : Written) (rest : Text) : Option Written :=
  match rest.dropWhile isBlank with
  | [] => if rest.isEmpty then some written else none
  | ['Z'] => some { written with isUniversal := true }
  | sign :: rest => do
    if sign ≠ '+' ∧ sign ≠ '-' then none
    let (hours, rest) ← readDigits 1 2 rest
    match rest with
    | [] => some { written with offset := some (sign, hours, []) }
    | _ =>
      let (minutes, rest) ← readDigits 2 2 (← readChar ':' rest)
      if rest.isEmpty then some { written with offset := some (sign, hours, minutes) } else none

/-- Reads what follows a date, from the mark before the time on. -/
def readTime (written : Written) (rest : Text) : Option Written := do
  let rest ←
    match rest with
    | [] => none
    | c :: more =>
      if c = 'T' ∨ c = 't' then some more
      else if isBlank c then some (more.dropWhile isBlank)
      else none
  let (hour, rest) ← readDigits 1 2 rest
  let (minute, rest) ← readDigits 2 2 (← readChar ':' rest)
  let (second, rest) ← readDigits 2 2 (← readChar ':' rest)
  let (fraction, rest) :=
    match rest with
    | '.' :: more => (more.takeWhile Char.isDigit, more.dropWhile Char.isDigit)
    | _ => ([], rest)
  readZone { written with time := some (hour, minute, second, fraction) } rest

def readWritten (text : Text) : Option Written := do
  let (year, rest) ← readDigits 4 4 text
  let (month, rest) ← readDigits 1 2 (← readChar '-' rest)
  let (day, rest) ← readDigits 1 2 (← readChar '-' rest)
  let written : Written := ⟨year, month, day, none, false, none⟩
  if rest.isEmpty then some written else readTime written rest

/-- Whether a text has the form of a date.  Without a time, month and day have two digits. -/
def isForm (text : Text) : Bool :=
  match readWritten text with
  | none => false
  | some written =>
    written.time.isSome || (written.month.length == 2 && written.day.length == 2)

/-! ## Values -/

def number (digits : Text) : Nat :=
  digits.foldl (fun n c => 10 * n + (c.toNat - '0'.toNat)) 0

/-- Whether a year has a 29th of February. -/
def isLeap (year : Nat) : Bool := year % 4 == 0 && (year % 100 != 0 || year % 400 == 0)

/-- The number of days of a month. -/
def daysIn (year month : Nat) : Nat :=
  if month = 2 then (if isLeap year then 29 else 28)
  else if month = 4 ∨ month = 6 ∨ month = 9 ∨ month = 11 then 30
  else 31

/-- A part of a date that must exist. -/
def check (holds : Bool) (reason : String) : Except Defect Unit :=
  if holds then .ok () else .error (.badDate reason.toList)

/-- The distance from universal time, which is less than a day. -/
def readOffset (written : Written) : Except Defect (Option Int) :=
  match written.offset with
  | none => .ok (if written.isUniversal then some 0 else none)
  | some (sign, hours, minutes) => do
    let size : Int := 60 * number hours + number minutes
    let offset := if sign = '-' then -size else size
    if -dayMinutes < offset ∧ offset < dayMinutes then return some offset
    else
      throw (.badDate ("offset must be a timedelta strictly between -timedelta(hours=24) and ".toList
        ++ "timedelta(hours=24), not ".toList ++ spanText offset ++ ['.']))

/-- The microseconds that a fraction of a second denotes. -/
def microseconds (fraction : Text) : Nat :=
  let digits := fraction.take 6
  number digits * Nat.pow 10 (6 - digits.length)

def read (text : Text) : Except Defect Moment := do
  let form := if text.getLast? = some '\n' then text.dropLast else text
  match readWritten form with
  | none => throw .noDate
  | some written =>
    -- The distance from universal time is checked before the date.
    let offset ← if written.time.isSome then readOffset written else pure none
    let year := number written.year
    let month := number written.month
    let day := number written.day
    check (1 ≤ year) "year 0 is out of range"
    check (1 ≤ month && month ≤ 12) "month must be in 1..12"
    check (1 ≤ day && day ≤ daysIn year month) "day is out of range for month"
    match written.time with
    | none => return ⟨year, month, day, none⟩
    | some (hour, minute, second, fraction) =>
      check (number hour ≤ 23) "hour must be in 0..23"
      check (number minute ≤ 59) "minute must be in 0..59"
      check (number second ≤ 59) "second must be in 0..59"
      return ⟨year, month, day,
        some ⟨number hour, number minute, number second, microseconds fraction, offset⟩⟩

end SnippetMarkup.Yaml.Moment
