import SnippetMarkup.Text.Basic

/-!
# Dates and times

A date, with a time of day and a distance from universal time if they are given.
-/

namespace SnippetMarkup.Yaml

structure TimeOfDay where
  hour : Nat
  minute : Nat
  second : Nat
  microsecond : Nat
  /-- The distance from universal time in minutes. -/
  offset : Option Int
  deriving DecidableEq, Repr

/-- A date, or a time on a date. -/
structure Moment where
  year : Nat
  month : Nat
  day : Nat
  time : Option TimeOfDay
  deriving DecidableEq, Repr

namespace Moment

/-- A number with zeros before it, up to a width. -/
def padded (width n : Nat) : Text :=
  let digits := Text.ofNat n
  List.replicate (width - digits.length) '0' ++ digits

/-- A distance from universal time in hours and minutes. -/
def offsetText (offset : Int) : Text :=
  let size := offset.natAbs
  (if offset < 0 then '-' else '+') :: padded 2 (size / 60) ++ ':' :: padded 2 (size % 60)

def toText (moment : Moment) : Text :=
  padded 4 moment.year ++ '-' :: padded 2 moment.month ++ '-' :: padded 2 moment.day ++
    match moment.time with
    | none => []
    | some time =>
      ' ' :: padded 2 time.hour ++ ':' :: padded 2 time.minute ++ ':' :: padded 2 time.second ++
        (if time.microsecond = 0 then [] else '.' :: padded 6 time.microsecond) ++
        (time.offset.map offsetText).getD []

def dayMinutes : Int := 24 * 60

/-- A distance in minutes, in days and seconds. -/
def spanText (minutes : Int) : Text :=
  let days := minutes / dayMinutes
  let seconds := (minutes % dayMinutes) * 60
  let shown (name : String) (n : Int) : List Text :=
    if n = 0 then [] else [name.toList ++ '=' :: (toString n).toList]
  let parts := shown "days" days ++ shown "seconds" seconds
  "datetime.timedelta(".toList ++ (if parts.isEmpty then ['0'] else Text.commaList parts) ++ [')']

/-- A distance from universal time as it is shown inside of a collection. -/
def shownOffset (offset : Int) : Text :=
  if offset = 0 then "datetime.timezone.utc".toList
  else "datetime.timezone(".toList ++ spanText offset ++ [')']

/-- A date as it is shown inside of a collection: by its parts, without those at the end of the
time that are zero. -/
def shown (moment : Moment) : Text :=
  let date := [moment.year, moment.month, moment.day]
  match moment.time with
  | none => "datetime.date(".toList ++ Text.commaList (date.map Text.ofNat) ++ [')']
  | some time =>
    let parts := date ++ [time.hour, time.minute] ++
      (if time.microsecond ≠ 0 then [time.second, time.microsecond]
      else if time.second ≠ 0 then [time.second]
      else [])
    let zone := (time.offset.map fun offset => ["tzinfo=".toList ++ shownOffset offset]).getD []
    "datetime.datetime(".toList ++ Text.commaList (parts.map Text.ofNat ++ zone) ++ [')']

end Moment

end SnippetMarkup.Yaml
