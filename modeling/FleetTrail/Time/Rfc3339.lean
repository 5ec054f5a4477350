import FleetTrail.Text.Scan
import FleetTrail.Time.Instant

/-!
# Reading instants

Two readings of RFC 3339. The strict one wants every field at its full width and nothing
around. The relaxed one allows blanks between the parts, short numbers and years of any
length with a sign, and `UTC` for the offset.
-/

namespace FleetTrail.Time

open Text

/-- A point and digits give nanoseconds, of which nine digits count; no point gives zero. -/
def fraction : Scan Nat := do
  if (← Scan.peek) == some '.' then
    Scan.char '.'
    let ds ← Scan.run Number.isDigit
    if ds.isEmpty then failure
    let kept := ds.take 9
    return Number.digitsValue kept * Nat.pow 10 (9 - kept.length)
  else return 0

/-- The sign of an offset: true for west of Greenwich, written `-` or as the minus sign. -/
def offsetSign : Scan Bool := do
  let c ← Scan.one fun c => c == '+' || c == '-' || c == '\u2212'
  return c != '+'

/-- Two digits of hours, `between`, and two digits of minutes, in seconds ahead of UTC. -/
def signedOffset (between : Scan Unit) : Scan Int := do
  let west ← offsetSign
  let hours ← Scan.number 2 2
  between
  let minutes ← Scan.number 2 2
  if 24 ≤ hours ∨ 60 ≤ minutes then failure
  let seconds : Int := (hours * 3600 + minutes * 60 : Nat)
  return if west then -seconds else seconds

/-- `Z`, or a sign with hours and minutes. -/
def offset (between : Scan Unit) : Scan Int := do
  match ← Scan.peek with
  | some 'Z' | some 'z' =>
    let _ ← Scan.one fun _ => true
    return 0
  | _ => signedOffset between

def dateMark : Scan Unit := do
  let _ ← Scan.one fun c => c == 'T' || c == 't' || c == ' '

def strictClock : Scan (Clock × Int) := do
  let year ← Scan.number 4 4
  Scan.char '-'
  let month ← Scan.number 2 2
  Scan.char '-'
  let day ← Scan.number 2 2
  dateMark
  let hour ← Scan.number 2 2
  Scan.char ':'
  let minute ← Scan.number 2 2
  Scan.char ':'
  let second ← Scan.number 2 2
  let nanos ← fraction
  let ahead ← offset (Scan.char ':')
  return (⟨⟨year, month, day⟩, hour, minute, second, nanos⟩, ahead)

def Instant.ofStrict? (cs : List Char) : Option Instant := do
  let (clock, ahead) ← strictClock.whole cs
  clock.instant? ahead

/-- A year: a sign and any number of digits, or up to four digits. -/
def signedYear : Scan Int := do
  match ← Scan.peek with
  | some '-' =>
    Scan.char '-'
    return -((← Scan.digits) : Int)
  | some '+' =>
    Scan.char '+'
    return ((← Scan.digits) : Int)
  | _ => return ((← Scan.number 1 4) : Int)

/-- Blanks, then one or two digits. -/
def looseNumber : Scan Nat := do
  Scan.blanks
  Scan.number 1 2

/-- Blanks, then the mark `c`. -/
private def looseMark (c : Char) : Scan Unit := do
  Scan.blanks
  Scan.char c

private def looseBetween : Scan Unit := do
  let _ ← Scan.run fun c => c == ':' || isBlank c

private def looseOffset : Scan Int := do
  let cs ← get
  if fold (cs.take 3) = ['u', 't', 'c'] then
    set (cs.drop 3)
    return 0
  else offset looseBetween

private def relaxedClock : Scan (Clock × Int) := do
  Scan.blanks
  let year ← signedYear
  looseMark '-'
  let month ← looseNumber
  looseMark '-'
  let day ← looseNumber
  dateMark
  let hour ← looseNumber
  looseMark ':'
  let minute ← looseNumber
  looseMark ':'
  let second ← looseNumber
  let nanos ← fraction
  Scan.blanks
  let ahead ← looseOffset
  Scan.blanks
  return (⟨⟨year, month, day⟩, hour, minute, second, nanos⟩, ahead)

def Instant.ofRelaxed? (cs : List Char) : Option Instant := do
  let (clock, ahead) ← relaxedClock.whole cs
  clock.instant? ahead

end FleetTrail.Time
