import Rollout.Text.Digits

/-!
# Instants

An instant is a number of milliseconds since the start of 1970, without leap seconds. It is written as
a date and a time of day: `2024-02-29T12:30:00.250+00:00`. Milliseconds are left out if there are none.

Days are counted in eras of 400 years that start on the first of March, so that the leap day is the
last day of its year.
-/

namespace Rollout.Text

/-- A day of the calendar. -/
structure CalendarDay where
  year : Nat
  month : Nat
  day : Nat
deriving DecidableEq

/-- The days of an era of 400 years. -/
def daysOfEra : Nat := 146097

/-- The days from the first of March of the year 0 to the start of 1970. -/
def daysToEpoch : Nat := 719468

/-- The day that is so many days after the start of 1970. -/
def CalendarDay.ofDays (days : Nat) : CalendarDay :=
  let z := days + daysToEpoch
  let era := z / daysOfEra
  let ofEra := z % daysOfEra
  let yearOfEra := (ofEra - ofEra / 1460 + ofEra / 36524 - ofEra / (daysOfEra - 1)) / 365
  let ofYear := ofEra - (365 * yearOfEra + yearOfEra / 4 - yearOfEra / 100)
  let fromMarch := (5 * ofYear + 2) / 153
  let month := if fromMarch < 10 then fromMarch + 3 else fromMarch - 9
  { year := era * 400 + yearOfEra + (if month ≤ 2 then 1 else 0)
    month
    day := ofYear - (153 * fromMarch + 2) / 5 + 1 }

/-- A number with at least the given count of digits. -/
def paddedNumber (width n : Nat) : String :=
  let s := toString n
  String.ofList (List.replicate (width - s.length) '0') ++ s

/-- An instant as it is written. -/
def instant (ms : Nat) : String :=
  let seconds := ms / 1000
  let day := CalendarDay.ofDays (seconds / 86400)
  let ofDay := seconds % 86400
  let part := if ms % 1000 = 0 then "" else "." ++ paddedNumber 3 (ms % 1000)
  paddedNumber 4 day.year ++ "-" ++ paddedNumber 2 day.month ++ "-" ++ paddedNumber 2 day.day ++ "T"
    ++ paddedNumber 2 (ofDay / 3600) ++ ":" ++ paddedNumber 2 (ofDay / 60 % 60) ++ ":"
    ++ paddedNumber 2 (ofDay % 60) ++ part ++ "+00:00"

/-- The leap day of an era ends it. -/
example : CalendarDay.ofDays 11016 = ⟨2000, 2, 29⟩ := by decide

example : CalendarDay.ofDays 0 = ⟨1970, 1, 1⟩ := by decide

end Rollout.Text
