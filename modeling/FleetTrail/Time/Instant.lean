import FleetTrail.Number.Whole
import FleetTrail.Time.Calendar

/-!
# Instants

Points in time with nanoseconds, in UTC. A leap second is carried by the second before it:
from 1 000 000 000 nanoseconds on the instant lies inside the leap second. An instant is
written in the form of RFC 3339 with the fewest of 0, 3, 6 or 9 fraction digits.
-/

namespace FleetTrail.Time

/-- A point in time: seconds since the first of January 1970, and nanoseconds after them. -/
structure Instant where
  seconds : Int
  nanos : Nat
  deriving DecidableEq, Repr

/-- The years that instants may fall into. -/
def yearInRange (year : Int) : Bool := -262143 ≤ year && year ≤ 262142

/-- The clock time of a date, before an offset from UTC is taken into account. -/
structure Clock where
  date : Date
  hour : Nat
  minute : Nat
  second : Nat
  nanos : Nat
  deriving DecidableEq, Repr

/-- A clock time that exists. Second 60 is a leap second and allowed at any minute. -/
def Clock.exists (c : Clock) : Bool :=
  yearInRange c.date.year && c.date.exists && c.hour < 24 && c.minute < 60 && c.second ≤ 60

/-- The instant at which a clock `offset` seconds ahead of UTC shows `c`. -/
def Clock.instant? (c : Clock) (offset : Int) : Option Instant :=
  let leap := c.second == 60
  let second := if leap then 59 else c.second
  let seconds :=
    c.date.dayNumber * 86400 + (c.hour * 3600 + c.minute * 60 + second : Nat) - offset
  let instant : Instant := ⟨seconds, if leap then c.nanos + 1000000000 else c.nanos⟩
  if c.exists && yearInRange (Date.ofDayNumber (seconds / 86400)).year then some instant else none

def yearText (year : Int) : List Char :=
  if 0 ≤ year ∧ year ≤ 9999 then Number.padded 4 year.natAbs
  else (if year < 0 then '-' else '+') :: Number.padded 4 year.natAbs

def fractionText (nanos : Nat) : List Char :=
  if nanos = 0 then []
  else if nanos % 1000000 = 0 then '.' :: Number.padded 3 (nanos / 1000000)
  else if nanos % 1000 = 0 then '.' :: Number.padded 6 (nanos / 1000)
  else '.' :: Number.padded 9 nanos

/-- The text of an instant: `2025-11-29T06:15:15.250Z`. -/
def Instant.text (i : Instant) : String :=
  let date := Date.ofDayNumber (i.seconds / 86400)
  let time := (i.seconds % 86400).toNat
  let second := time % 60 + i.nanos / 1000000000
  String.ofList (yearText date.year ++ '-' :: Number.padded 2 date.month ++
    '-' :: Number.padded 2 date.day ++ 'T' :: Number.padded 2 (time / 3600) ++
    ':' :: Number.padded 2 (time / 60 % 60) ++ ':' :: Number.padded 2 second ++
    fractionText (i.nanos % 1000000000) ++ ['Z'])

/-- The first of January 2000, from which the store counts. -/
def storeEpoch : Int := 946684800

/-- The instant that the store keeps: whole microseconds, cut toward the store's epoch. -/
def Instant.stored (i : Instant) : Instant :=
  let micros := (((i.seconds - storeEpoch) * 1000000000 + i.nanos).tdiv 1000)
  ⟨storeEpoch + micros / 1000000, (micros % 1000000).toNat * 1000⟩

end FleetTrail.Time
