/-
  TunnelBroker.Time.Calendar — days of the proleptic Gregorian calendar, counted from 1970-01-01.

  - `dayNumber`: the number of a date.
  - `Date.ofDayNumber`: the date of a number. The year is estimated by the mean length of a year and then
    corrected by at most one.
-/

namespace TunnelBroker.Time

structure Date where
  year : Int
  month : Nat
  day : Nat
  deriving DecidableEq, Repr

def isLeap (year : Int) : Bool := year % 4 = 0 && (year % 100 != 0 || year % 400 = 0)

/-- The number of 1 January of a year. -/
def yearStart (year : Int) : Int :=
  let p := year - 1
  365 * p + p / 4 - p / 100 + p / 400 - 719162

/-- The lengths of the twelve months. -/
def monthLengths (leap : Bool) : List Nat :=
  [31, if leap then 29 else 28, 31, 30, 31, 30, 31, 31, 30, 31, 30, 31]

/-- How many days of the year come before a month. -/
def daysBefore (leap : Bool) (month : Nat) : Nat := ((monthLengths leap).take (month - 1)).foldl (· + ·) 0

/-- The date is one of the calendar. -/
def Date.isValid (d : Date) : Bool :=
  1 ≤ d.month && d.month ≤ 12 && 1 ≤ d.day && d.day ≤ ((monthLengths (isLeap d.year))[d.month - 1]?).getD 0

def dayNumber (d : Date) : Int :=
  yearStart d.year + daysBefore (isLeap d.year) d.month + (d.day - 1 : Int)

/-- The year in which a day lies. -/
def yearOf (n : Int) : Int :=
  let guess := (400 * (n + 719162)) / 146097 + 1
  if n < yearStart guess then guess - 1
  else if yearStart (guess + 1) ≤ n then guess + 1
  else guess

/-- The month and the day of the month, `days` days after the first of `month`; the lengths are of it and
the months after it. -/
def monthAndDay (month : Nat) (days : Nat) : List Nat → Nat × Nat
  | [] => (month, days + 1)
  | length :: rest => if days < length then (month, days + 1) else monthAndDay (month + 1) (days - length) rest

def Date.ofDayNumber (n : Int) : Date :=
  let year := yearOf n
  let (month, day) := monthAndDay 1 (n - yearStart year).toNat (monthLengths (isLeap year))
  ⟨year, month, day⟩

end TunnelBroker.Time
