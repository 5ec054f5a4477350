import FleetTrail.Number.Whole

/-!
# Batch ids

A batch is known by a 128-bit id. Devices may write it as 32 hexadecimal digits, with hyphens
in groups of 8, 4, 4, 4 and 12, the latter also in braces or behind `urn:uuid:`. A batch
without a readable id gets a fresh one, which is drawn at random.
-/

namespace FleetTrail.Telemetry

inductive BatchId where
  | given (value : Nat)
  | fresh
  deriving DecidableEq, Repr

namespace BatchId

private def plain? (cs : List Char) : Option Nat := do
  if cs.length ≠ 32 then none
  cs.foldlM (fun n c => do return n * 16 + (← Number.hexDigit? c)) 0

private def hyphenPlaces : List Nat := [8, 13, 18, 23]

private def hyphenated? (cs : List Char) : Option Nat := do
  if cs.length ≠ 36 ∨ !hyphenPlaces.all (fun i => cs[i]? == some '-') then none
  plain? (cs.filter (· ≠ '-'))

/-- Reads an id in one of its written forms. -/
def ofText? (s : String) : Option BatchId :=
  let cs := s.toList
  let value :=
    if cs.length = 38 ∧ cs.head? = some '\x7b' ∧ cs.getLast? = some '\x7d' then
      hyphenated? (cs.drop 1).dropLast
    else if cs.length = 45 ∧ (cs.take 9).map Char.toLower = "urn:uuid:".toList then
      hyphenated? (cs.drop 9)
    else plain? cs <|> hyphenated? cs
  value.map .given

private def hexText (n : Nat) : List Char :=
  let ds := Nat.toDigits 16 n
  List.replicate (32 - ds.length) '0' ++ ds

/-- The written form of an id, in lower case with hyphens. A fresh id shows that it is random. -/
def text : BatchId → String
  | .given value =>
    let ds := hexText value
    let group (start length : Nat) := (ds.drop start).take length
    String.ofList (group 0 8 ++ '-' :: group 8 4 ++ '-' :: group 12 4 ++ '-' :: group 16 4 ++
      '-' :: group 20 12)
  | .fresh => "<random>"

end BatchId

end FleetTrail.Telemetry
