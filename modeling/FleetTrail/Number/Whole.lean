/-!
# Whole numbers in text

Decimal whole numbers with an optional sign, read into words of a fixed width. Digits are
ASCII. A text is read from the left and refused at its first fault, so an overflow that
happens before a stray character hides it.
-/

namespace FleetTrail.Number

/-- Why a text is no whole number of the wanted width. -/
inductive WholeError where
  | empty
  | invalidDigit
  | tooLarge
  | tooSmall
  deriving DecidableEq, Repr

def WholeError.message : WholeError → String
  | .empty => "cannot parse integer from empty string"
  | .invalidDigit => "invalid digit found in string"
  | .tooLarge => "number too large to fit in target type"
  | .tooSmall => "number too small to fit in target type"

/-- The value of an ASCII digit. -/
def digit? (c : Char) : Option Nat :=
  if '0' ≤ c ∧ c ≤ '9' then some (c.toNat - '0'.toNat) else none

/-- The value of a hexadecimal digit of either case. -/
def hexDigit? (c : Char) : Option Nat :=
  if '0' ≤ c ∧ c ≤ '9' then some (c.toNat - '0'.toNat)
  else if 'a' ≤ c ∧ c ≤ 'f' then some (c.toNat - 'a'.toNat + 10)
  else if 'A' ≤ c ∧ c ≤ 'F' then some (c.toNat - 'A'.toNat + 10)
  else none

/-- The value of a run of digits that continues `acc`; `overflow` as soon as it passes `limit`. -/
def readDigits (limit : Nat) (overflow : WholeError) : Nat → List Char → Except WholeError Nat
  | acc, [] => .ok acc
  | acc, c :: rest =>
    match digit? c with
    | none => .error .invalidDigit
    | some d =>
      if limit < acc * 10 + d then .error overflow
      else readDigits limit overflow (acc * 10 + d) rest

/-- Reads an optional sign and digits as a signed 64-bit number. -/
def readInt64 : List Char → Except WholeError Int64
  | [] => .error .empty
  | ['+'] | ['-'] => .error .invalidDigit
  | '-' :: rest => do
    let n ← readDigits (Nat.pow 2 63) .tooSmall 0 rest
    return Int64.ofInt (-(n : Int))
  | '+' :: rest => do
    let n ← readDigits (Nat.pow 2 63 - 1) .tooLarge 0 rest
    return Int64.ofInt n
  | rest => do
    let n ← readDigits (Nat.pow 2 63 - 1) .tooLarge 0 rest
    return Int64.ofInt n

/-- Reads an optional `+` and digits as a number up to `limit`. -/
def readUpTo (limit : Nat) : List Char → Except WholeError Nat
  | [] => .error .empty
  | ['+'] | ['-'] => .error .invalidDigit
  | '+' :: rest => readDigits limit .tooLarge 0 rest
  | rest => readDigits limit .tooLarge 0 rest

/-- A character that is an ASCII digit. -/
def isDigit (c : Char) : Bool := (digit? c).isSome

/-- The number that a run of digits denotes. -/
def digitsValue (cs : List Char) : Nat :=
  cs.foldl (fun n c => n * 10 + (digit? c).getD 0) 0

/-- The decimal digits of a number, without leading zeros. -/
def digits (n : Nat) : List Char := Nat.toDigits 10 n

def natText (n : Nat) : String := String.ofList (digits n)

/-- The decimal text of a whole number, with `-` in front of a negative one. -/
def intText (n : Int) : String :=
  if n < 0 then "-" ++ natText n.natAbs else natText n.natAbs

/-- The digits of a number with zeros in front up to `width`. -/
def padded (width n : Nat) : List Char :=
  List.replicate (width - (digits n).length) '0' ++ digits n

end FleetTrail.Number
