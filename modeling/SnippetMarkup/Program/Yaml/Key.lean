import SnippetMarkup.Program.Yaml.Timestamp
import SnippetMarkup.Yaml.Value

/-!
# Keys

When two keys of a mapping are the same, and what becomes of a mapping that gets another entry.
-/

namespace SnippetMarkup.Yaml

namespace Scalar

/-- The sign and the size of a number, as a fraction. -/
def number? : Scalar → Option (Bool × Nat × Nat)
  | bool value => some (false, if value then 1 else 0, 1)
  | int value => some (decide (value < 0), value.natAbs, 1)
  | float (.finite negative mantissa exponent) =>
    let (num, den) := Binary64.fraction mantissa exponent
    some (negative && mantissa != 0, num, den)
  | _ => none

/-- The minutes from the start of the first day to a time on a date. -/
def minutes (moment : Moment) (time : TimeOfDay) : Int :=
  let year := moment.year - 1
  let days := 365 * year + year / 4 - year / 100 + year / 400 +
    (List.range (moment.month - 1)).foldl
      (fun days month => days + Moment.daysIn moment.year (month + 1)) 0 +
    moment.day
  (days * 24 + time.hour) * 60 + time.minute

/-- Whether two times are the same, wherever they are told. -/
def sameTime (a b : Moment) : Bool :=
  match a.time, b.time with
  | some time, some time' =>
    match time.offset, time'.offset with
    | some offset, some offset' =>
      minutes a time - offset == minutes b time' - offset' && time.second == time'.second &&
        time.microsecond == time'.microsecond
    | _, _ => a == b
  | _, _ => a == b

/-- Whether two scalars are the same key of a mapping.  Numbers are the same if their sizes are,
and so are truth values, which count as one and zero. -/
def sameKey (a b : Scalar) : Bool :=
  match a.number?, b.number? with
  | some (negative, num, den), some (negative', num', den') =>
    negative == negative' && num * den' == num' * den
  | _, _ =>
    match a, b with
    | moment value, moment value' => sameTime value value'
    | _, _ => a == b

end Scalar

/-- The entries with a value given to a key.  A key that is present stays as it is. -/
def Contents.put (entries : List (Scalar × Value)) (key : Scalar) (value : Value) :
    List (Scalar × Value) :=
  if entries.any fun entry => entry.1.sameKey key then
    entries.map fun entry => if entry.1.sameKey key then (entry.1, value) else entry
  else entries ++ [(key, value)]

end SnippetMarkup.Yaml
