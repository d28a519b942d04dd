/-!
# The calendar

The Gregorian calendar, carried on without end in both directions, with a year zero.

- `Date`: a year, month and day.
- `Date.dayNumber`: the days from 1 January 1970.
- `Date.ofDayNumber`: the date that many days from 1 January 1970.
-/

namespace GameFleet

/-- A year, a month from 1 and a day from 1. -/
structure Date where
  year : Int
  month : Nat
  day : Nat
  deriving Repr, DecidableEq

namespace Date

/-- Whether a year has a 29 February. -/
def isLeap (year : Int) : Bool := year % 4 == 0 && (year % 100 != 0 || year % 400 == 0)

/-- The lengths of a year's months. -/
def monthLengths (leap : Bool) : List Nat :=
  [31, if leap then 29 else 28, 31, 30, 31, 30, 31, 31, 30, 31, 30, 31]

/-- The days of the `n` years before year `n + 1`, from year 1 on. -/
def daysOfYears (n : Int) : Int := 365 * n + n / 4 - n / 100 + n / 400

/-- The days from 1 January of year 1 to 1 January 1970. -/
def epochDay : Int := daysOfYears 1969

/-- Whether the calendar has such a date. -/
def isValid (d : Date) : Bool :=
  match d.month with
  | 0 => false
  | m + 1 =>
    match (monthLengths (isLeap d.year))[m]? with
    | none => false
    | some length => 1 ≤ d.day && d.day ≤ length

/-- The sum of some lengths. -/
def total (lengths : List Nat) : Nat := lengths.foldl (· + ·) 0

/-- The days from 1 January 1970 to a date. -/
def dayNumber (d : Date) : Int :=
  daysOfYears (d.year - 1) - epochDay
    + (total ((monthLengths (isLeap d.year)).take (d.month - 1)) : Nat) + d.day - 1

/-- How many years end on or before the day `n` days after 1 January of year 1. -/
def yearsBefore (n : Int) : Int :=
  let guess := n * 400 / 146097
  if n < daysOfYears guess then guess - 1
  else if daysOfYears (guess + 1) ≤ n then guess + 1
  else guess

/-- The month and day that a day of the year falls on, counting both from `month` and the day from
zero. -/
def monthAndDay (month : Nat) : (lengths : List Nat) → (day : Nat) → Nat × Nat
  | [], day => (month, day + 1)
  | length :: rest, day =>
    if day < length then (month, day + 1) else monthAndDay (month + 1) rest (day - length)

/-- The date that many days from 1 January 1970. -/
def ofDayNumber (n : Int) : Date :=
  let day := n + epochDay
  let years := yearsBefore day
  let (month, dayOfMonth) :=
    monthAndDay 1 (monthLengths (isLeap (years + 1))) (day - daysOfYears years).toNat
  ⟨years + 1, month, dayOfMonth⟩

end Date

end GameFleet
