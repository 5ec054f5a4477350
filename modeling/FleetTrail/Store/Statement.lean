import FleetTrail.Json.Value
import FleetTrail.Query.Value

/-!
# Statements and answers

What is asked of the store and what comes back. A statement is SQL with its bound values; NULL
keeps the type of the column that it stands for. A row gives a cell for each column by name,
and a column that the row lacks is NULL.
-/

namespace FleetTrail.Store

/-- A value as it is bound to a statement. -/
inductive Bound where
  | int (n : Option Int64)
  | float (x : Option Float)
  | text (s : Option String)
  | bool (b : Bool)
  | time (t : Option Time.Instant)
  | ints (ns : List Int64)
  | texts (ss : List String)
  | json (v : Json.Value)

/-- The value that a query binds, as the store sees it: times lose what is finer than a
microsecond. -/
def Bound.ofValue : Query.Value → Bound
  | .int n => .int (some n)
  | .float x => .float (some x)
  | .text s => .text (some s)
  | .bool b => .bool b
  | .time t => .time (some t.stored)
  | .ints ns => .ints ns
  | .texts ss => .texts ss

/-- An optional instant, bound as the store keeps it. -/
def Bound.ofInstant (t : Option Time.Instant) : Bound := .time (t.map Time.Instant.stored)

/-- SQL with the values bound to its placeholders. -/
structure Statement where
  sql : String
  args : List Bound

inductive Request where
  | begin
  | commit
  | rollback
  | data (statement : Statement)

inductive Cell where
  | null
  | int (n : Int64)
  | float (x : Float)
  | text (s : String)
  | bool (b : Bool)
  | time (t : Time.Instant)
  | json (v : Json.Value)
  /-- Something that no reader of the column takes. -/
  | garbled

/-- A row by column name. -/
abbrev Row := List (String × Cell)

/-- What a successful statement brings back. -/
structure Reply where
  rows : List Row := []
  affected : Nat := 1

/-- Why the store did not do what it was asked. -/
inductive StoreError where
  /-- The store answered with an error of its own. -/
  | refused (text : String)
  /-- A row was needed and none came. -/
  | rowNotFound
  /-- A column without a usable value; `index` is its name in quotes or its place. -/
  | columnDecode (index : String)
  /-- The connections are closed; nothing was sent. -/
  | poolClosed
  deriving DecidableEq, Repr

def StoreError.message : StoreError → String
  | .refused text => "error returned from database: " ++ text
  | .rowNotFound => "no rows returned by a query that expected to return at least one row"
  | .columnDecode index =>
    "error occurred while decoding column " ++ index ++
      ": unexpected null; try decoding as an \x60Option\x60"
  | .poolClosed => "attempted to acquire a connection on a closed pool"

/-- The store's answer to a request. -/
abbrev Answer := Except StoreError Reply

end FleetTrail.Store
