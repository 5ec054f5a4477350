import FleetTrail.Time.Rfc3339

/-!
# Device clocks

Tracking devices send the time of a sample in strict RFC 3339 or as a bare date and time,
which then is UTC: `2025-11-29 06:15:15`, with any blanks or none between date and time, or
with a `T` there. Blanks may stand before each number.
-/

namespace FleetTrail.Time

open Text

def bareClock (mark : Scan Unit) : Scan Clock := do
  Scan.blanks
  let year ← signedYear
  Scan.char '-'
  let month ← looseNumber
  Scan.char '-'
  let day ← looseNumber
  mark
  let hour ← looseNumber
  Scan.char ':'
  let minute ← looseNumber
  Scan.char ':'
  let second ← looseNumber
  return ⟨⟨year, month, day⟩, hour, minute, second, 0⟩

def ofBare? (mark : Scan Unit) (cs : List Char) : Option Instant := do
  let clock ← (bareClock mark).whole cs
  clock.instant? 0

/-- Reads the time that a device stamped on a sample. -/
def Instant.ofDevice? (cs : List Char) : Option Instant :=
  Instant.ofStrict? cs <|> ofBare? Scan.blanks cs <|> ofBare? (Scan.char 'T') cs

end FleetTrail.Time
