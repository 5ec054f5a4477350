import FleetTrail.Number.Shortest
import FleetTrail.Text.Blank

/-!
# Doubles in text

A double is written with the fewest digits that read back to it, a tie going up, and always in
positional notation. Reading accepts a sign, the names of the special values in any case, and
digits with an optional point and exponent; the result is correctly rounded and an overflow is
infinite.
-/

namespace FleetTrail.Number

/-- Writes `digits * 10 ^ exponent` without an exponent. -/
def positional (d : Decimal) : List Char :=
  let ds := digits d.digits
  if 0 ≤ d.exponent then ds ++ List.replicate d.exponent.toNat '0'
  else
    let places := d.exponent.natAbs
    if places < ds.length then
      ds.take (ds.length - places) ++ '.' :: ds.drop (ds.length - places)
    else '0' :: '.' :: List.replicate (places - ds.length) '0' ++ ds

def signed (negative : Bool) (cs : List Char) : String :=
  String.ofList (if negative then '-' :: cs else cs)

/-- The text of a double: `NaN`, `inf`, `-0`, `2`, `0.0000001`. -/
def floatText (x : Float) : String :=
  match parts x with
  | .nan => "NaN"
  | .infinite negative => signed negative ['i', 'n', 'f']
  | .finite negative mantissa exponent =>
    if mantissa = 0 then signed negative ['0']
    else signed negative (positional (shortest .up mantissa exponent))

/-- The double nearest to `mantissa * 10 ^ exponent`. Magnitudes far outside the range of
doubles are settled first, so that no power of ten grows without bound. -/
def nearest (mantissa : Nat) (exponent : Int) : Float :=
  let magnitude : Int := (digits mantissa).length + exponent
  if mantissa = 0 ∨ magnitude < -400 then 0.0
  else if 400 < magnitude then 1.0 / 0.0
  else Float.ofScientific mantissa (exponent < 0) exponent.natAbs

/-- An exponent mark with an optional sign and at least one digit, up to the end of the text. -/
def readExponent : List Char → Option Int
  | [] => some 0
  | mark :: rest =>
    if mark = 'e' ∨ mark = 'E' then
      let (negative, ds) := match rest with
        | '-' :: ds => (true, ds)
        | '+' :: ds => (false, ds)
        | ds => (false, ds)
      if ds.isEmpty ∨ !ds.all isDigit then none
      else some (if negative then -(digitsValue ds : Int) else digitsValue ds)
    else none

def readMagnitude (cs : List Char) : Option Float :=
  let name := Text.fold cs
  if name = "inf".toList ∨ name = "infinity".toList then some (1.0 / 0.0)
  else if name = "nan".toList then some (0.0 / 0.0)
  else
    let (whole, rest) := cs.span isDigit
    let (fraction, rest) := match rest with
      | '.' :: rest => rest.span isDigit
      | rest => ([], rest)
    if whole.isEmpty ∧ fraction.isEmpty then none
    else
      (readExponent rest).map fun e =>
        nearest (digitsValue (whole ++ fraction)) (e - fraction.length)

/-- Reads a double from the whole of a text. -/
def readFloat : List Char → Option Float
  | '-' :: rest => (readMagnitude rest).map fun x => -x
  | '+' :: rest => readMagnitude rest
  | rest => readMagnitude rest

end FleetTrail.Number
