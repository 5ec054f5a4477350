import FleetTrail.Number.Whole
import FleetTrail.Text.Blank

/-!
# Scanning a text from the left

A scanner takes a piece off the front of a text or fails. Sequencing is that of a state with
failure, and `Scan.whole` asks that nothing is left.
-/

namespace FleetTrail.Text

/-- Takes a piece off the front of a text, or fails. -/
abbrev Scan (α : Type) := StateT (List Char) Option α

namespace Scan

/-- The result of a scanner that takes the whole text. -/
def whole {α : Type} (scan : Scan α) (cs : List Char) : Option α :=
  match scan.run cs with
  | some (a, []) => some a
  | _ => none

/-- Takes one character that satisfies `p`. -/
def one (p : Char → Bool) : Scan Char := fun cs =>
  match cs with
  | c :: rest => if p c then some (c, rest) else none
  | [] => none

def char (c : Char) : Scan Unit := do
  let _ ← one (· == c)

/-- Takes the longest run of characters that satisfy `p`, possibly none. -/
def run (p : Char → Bool) : Scan (List Char) := fun cs => some (cs.takeWhile p, cs.dropWhile p)

def blanks : Scan Unit := do
  let _ ← run isBlank

/-- The next character, which stays. -/
def peek : Scan (Option Char) := fun cs => some (cs.head?, cs)

/-- Takes as many digits as there are, from `least` up to `most`. -/
def number (least most : Nat) : Scan Nat := fun cs =>
  let ds := (cs.take most).takeWhile Number.isDigit
  if ds.length < least then none else some (Number.digitsValue ds, cs.drop ds.length)

def digits : Scan Nat := fun cs =>
  let ds := cs.takeWhile Number.isDigit
  if ds.isEmpty then none else some (Number.digitsValue ds, cs.drop ds.length)

end Scan

end FleetTrail.Text
