import FleetTrail.Number.Whole

/-!
# The shortest decimal of a double

A double that is neither infinite nor NaN is `mantissa * 2 ^ exponent`. The decimals that
round to it form an interval, closed exactly when the mantissa is even. For one digit, two
digits and so on the two neighbours of the value on that decimal grid are tested in whole
numbers; the first grid with a hit wins, and of two hits the nearer. Which way a tie goes is a
matter of the format.
-/

namespace FleetTrail.Number

/-- A double taken apart. -/
inductive Parts where
  | nan
  | infinite (negative : Bool)
  | finite (negative : Bool) (mantissa : Nat) (exponent : Int)
  deriving DecidableEq, Repr

/-- Takes a double apart along its sign, exponent and fraction bits. -/
def parts (x : Float) : Parts :=
  let bits : Nat := x.toBits.toNat
  let negative := bits / Nat.pow 2 63 == 1
  let power : Nat := bits / Nat.pow 2 52 % Nat.pow 2 11
  let fraction : Nat := bits % Nat.pow 2 52
  if power = 2047 then
    if fraction = 0 then .infinite negative else .nan
  else if power = 0 then .finite negative fraction (-1074)
  else .finite negative (Nat.pow 2 52 + fraction) ((power : Int) - 1075)

/-- The decimal `digits * 10 ^ exponent`. -/
structure Decimal where
  digits : Nat
  exponent : Int
  deriving DecidableEq, Repr

/-- The whole numbers that describe a value and its rounding interval over one divisor:
`low ≤ value ≤ high`, each to be divided by `divisor`. -/
structure Interval where
  low : Nat
  value : Nat
  high : Nat
  divisor : Nat
  closed : Bool

/-- The reals that round to `mantissa * 2 ^ exponent`. Below a power of two the doubles stand
twice as close, so the interval reaches only half as far down. -/
def Interval.around (mantissa : Nat) (exponent : Int) : Interval :=
  let scale := Nat.pow 2 (exponent - 2).toNat
  let below := if mantissa = Nat.pow 2 52 ∧ exponent ≠ -1074 then 1 else 2
  { low := (4 * mantissa - below) * scale
    value := 4 * mantissa * scale
    high := (4 * mantissa + 2) * scale
    divisor := Nat.pow 2 (2 - exponent).toNat
    closed := mantissa % 2 == 0 }

/-- Whether `digits * 10 ^ exponent` lies in the interval. -/
def Interval.contains (i : Interval) (d : Decimal) : Bool :=
  let point := d.digits * Nat.pow 10 d.exponent.toNat * i.divisor
  let scale := Nat.pow 10 (-d.exponent).toNat
  let low := i.low * scale
  let high := i.high * scale
  (low < point && point < high) || (i.closed && (low == point || point == high))

/-- Which of two decimals is taken when the value lies half way between them. -/
inductive Tie where
  | up
  /-- The one whose last digit is even. -/
  | even
  deriving DecidableEq, Repr

/-- Whether a value goes down to `below`, which is `excess` away, and not up to the next number,
which is `lack` away. -/
def Tie.goesDown (tie : Tie) (below excess lack : Nat) : Bool :=
  excess < lack || (tie == .even && excess == lack && below % 2 == 0)

/-- The neighbour of the value on the grid of step `10 ^ exponent` that lies in the interval. -/
def Interval.onGrid (i : Interval) (tie : Tie) (exponent : Int) : Option Decimal :=
  let step := Nat.pow 10 exponent.toNat * i.divisor
  let value := i.value * Nat.pow 10 (-exponent).toNat
  let below := value / step
  let down : Decimal := ⟨below, exponent⟩
  let up : Decimal := ⟨below + 1, exponent⟩
  match i.contains down, i.contains up with
  | true, true =>
    some (if tie.goesDown below (value % step) (step - value % step) then down else up)
  | true, false => some down
  | false, true => some up
  | false, false => none

def leadingZeros (value divisor : Nat) : Nat → Nat
  | 0 => 0
  | fuel + 1 => if divisor ≤ value then 0 else leadingZeros (value * 10) divisor fuel + 1

/-- The least `k` with `value < 10 ^ k`. -/
def Interval.magnitude (i : Interval) : Int :=
  if i.divisor ≤ i.value then (digits (i.value / i.divisor)).length
  else 1 - (leadingZeros i.value i.divisor 400 : Int)

def dropZeros : Nat → Decimal → Decimal
  | 0, d => d
  | fuel + 1, d => if d.digits % 10 = 0 then dropZeros fuel ⟨d.digits / 10, d.exponent + 1⟩ else d

/-- The shortest decimal that rounds to `mantissa * 2 ^ exponent`, for a positive mantissa.
Seventeen digits always suffice. -/
def shortest (tie : Tie) (mantissa : Nat) (exponent : Int) : Decimal :=
  let i := Interval.around mantissa exponent
  let k := i.magnitude
  match (List.range 17).findSome? fun n => i.onGrid tie (k - (n + 1 : Nat)) with
  | some d => dropZeros 17 d
  | none => ⟨0, 0⟩

end FleetTrail.Number
