import FleetTrail.Json.Number
import FleetTrail.Number.Text

/-!
# Doubles in JSON text

A double is written with the fewest digits that read back to it, a tie going to the even digit,
and always with a point or an exponent. From 0.00001 up to 10 ^ 16 it stands in positional
notation, outside with an exponent. Reading is coarser than writing, so a value that goes
through text may come back with doubles that are a little off.
-/

namespace FleetTrail.Json

open FleetTrail.Number (Decimal digits intText parts positional shortest)

/-- The exponent of the leading digit. -/
private def leadingExponent (d : Decimal) : Int :=
  d.exponent + ((digits d.digits).length - 1 : Nat)

private def withPoint (cs : List Char) : List Char :=
  if '.' ∈ cs then cs else cs ++ ['.', '0']

/-- Writes a decimal with one digit before the point. -/
private def scientific (d : Decimal) : List Char :=
  let exponent := leadingExponent d
  let fraction := (digits d.digits).drop 1
  (digits d.digits).take 1 ++ (if fraction.isEmpty then [] else '.' :: fraction) ++
    'e' :: (if 0 ≤ exponent then ['+'] else []) ++ (intText exponent).toList

private def decimalText (d : Decimal) : List Char :=
  if -5 ≤ leadingExponent d ∧ leadingExponent d < 16 then withPoint (positional d)
  else scientific d

/-- The JSON text of a double. The special values have none and become `null`. -/
def floatText (x : Float) : String :=
  match parts x with
  | .finite negative mantissa exponent =>
    let magnitude :=
      if mantissa = 0 then ['0', '.', '0'] else decimalText (shortest .even mantissa exponent)
    String.ofList (if negative then '-' :: magnitude else magnitude)
  | _ => "null"

/-- What a double reads as after it was written. -/
private def rereadFloat (x : Float) : Value :=
  match number (floatText x).toList with
  | some (v, _) => v
  | none => .float x

mutual

/-- What a value reads as after it was written. -/
def Value.reread : Value → Value
  | .float x => rereadFloat x
  | .list items => .list (rereadItems items)
  | .record fields => .record (rereadFields fields)
  | v => v

private def rereadItems : List Value → List Value
  | [] => []
  | v :: rest => v.reread :: rereadItems rest

private def rereadFields : List (String × Value) → List (String × Value)
  | [] => []
  | (name, v) :: rest => (name, v.reread) :: rereadFields rest

end

end FleetTrail.Json
