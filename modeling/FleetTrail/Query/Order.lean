import FleetTrail.Query.Fault
import FleetTrail.Text.Blank
import FleetTrail.Text.Quoted

/-!
# Sort orders

A requested sort is looked up in a whitelist of keys, whose first entry is the fallback. Keys
are compared without regard to ASCII case and underscores. A key or a direction that is not
known falls back to the first column, descending, and leaves a notice.
-/

namespace FleetTrail.Query

inductive Direction where
  | asc
  | desc
  deriving DecidableEq, Repr

def Direction.sql : Direction → String
  | .asc => "ASC"
  | .desc => "DESC"

/-- A key that callers may sort by, and the column expression behind it. -/
structure SortKey where
  key : String
  column : String
  deriving DecidableEq, Repr

structure Order where
  column : String
  direction : Direction
  deriving DecidableEq, Repr

/-- What a resolution had to overlook. -/
inductive SortNotice where
  | unknownColumn (key : String)
  | unknownDirection (raw : Option String)
  deriving DecidableEq, Repr

def SortNotice.message : SortNotice → String
  | .unknownColumn key => "Unknown sort column '" ++ key ++ "', using default"
  | .unknownDirection raw =>
    "Unknown sort direction " ++ Text.optionText Text.quoted raw ++ ", using default"

/-- A key without underscores and ASCII case. -/
def normalizeKey (key : String) : List Char :=
  Text.fold (key.toList.filter (· ≠ '_'))

/-- A direction by name; none and a blank one are descending. -/
def Direction.ofText? : Option String → Option Direction
  | none => some .desc
  | some raw =>
    let word := Text.fold (Text.trim raw.toList)
    if word.isEmpty ∨ word = "desc".toList then some .desc
    else if word = "asc".toList then some .asc
    else none

/-- Resolves a requested key and direction against a whitelist. -/
def Order.resolve (whitelist : List SortKey) (key direction : Option String) :
    Except Fault (Order × Option SortNotice) :=
  match whitelist with
  | [] => .error .emptyWhitelist
  | first :: _ =>
    let fallback : Order := ⟨first.column, .desc⟩
    match key with
    | none => .ok ({ fallback with direction := (Direction.ofText? direction).getD .desc }, none)
    | some key =>
      match whitelist.find? fun entry => normalizeKey entry.key = normalizeKey key with
      | none => .ok (fallback, some (.unknownColumn key))
      | some entry =>
        match Direction.ofText? direction with
        | some d => .ok (⟨entry.column, d⟩, none)
        | none => .ok (fallback, some (.unknownDirection direction))

def Order.sql (o : Order) : String := "ORDER BY " ++ o.column ++ " " ++ o.direction.sql

end FleetTrail.Query
