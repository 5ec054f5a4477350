/-!
# The calendar

Dates of the proleptic Gregorian calendar, with a year zero, and their day numbers. Day 0 is
the first of January 1970.
-/

namespace FleetTrail.Time

/-- A year with a 29th of February. -/
def leapYear (year : Int) : Bool :=
  year % 4 == 0 && (year % 100 != 0 || year % 400 == 0)

def monthLengths (year : Int) : List Nat :=
  [31, if leapYear year then 29 else 28, 31, 30, 31, 30, 31, 31, 30, 31, 30, 31]

structure Date where
  year : Int
  month : Nat
  day : Nat
  deriving DecidableEq, Repr

/-- The number of days in a month, 0 for a month that does not exist. -/
def daysInMonth (year : Int) (month : Nat) : Nat :=
  match month with
  | 0 => 0
  | m + 1 => (monthLengths year)[m]?.getD 0

def Date.exists (d : Date) : Bool :=
  1 ≤ d.day && d.day ≤ daysInMonth d.year d.month

/-- Days from the first of January of the year 1 to that of `year`. -/
def daysBeforeYear (year : Int) : Int :=
  let y := year - 1
  365 * y + y / 4 - y / 100 + y / 400

/-- The day number of the first of January 1970, counted from that of the year 1. -/
def epochDay : Int := 719162

def Date.dayNumber (d : Date) : Int :=
  let daysBefore : Nat := ((monthLengths d.year).take (d.month - 1)).foldr (· + ·) 0
  daysBeforeYear d.year + daysBefore + (d.day - 1 : Int) - epochDay

/-- The month and day that lie `days` days after the first day of the first listed month. -/
def monthAndDay : Nat → List Nat → Nat → Nat × Nat
  | month, [], days => (month, days + 1)
  | month, length :: rest, days =>
    if days < length then (month, days + 1) else monthAndDay (month + 1) rest (days - length)

/-- The date of a day number, cut into spans of 400, 100, 4 years and one year. The last
century of the 400 years and the last year of the four are one day longer than the others,
hence the two bounds. -/
def Date.ofDayNumber (n : Int) : Date :=
  let days := n + epochDay
  let rest := (days % 146097).toNat
  let century := min (rest / 36524) 3
  let rest := rest - century * 36524
  let four := rest / 1461
  let rest := rest - four * 1461
  let single := min (rest / 365) 3
  let rest := rest - single * 365
  let year := 400 * (days / 146097) + (100 * century + 4 * four + single + 1 : Nat)
  let (month, day) := monthAndDay 1 (monthLengths year) rest
  ⟨year, month, day⟩

end FleetTrail.Time
