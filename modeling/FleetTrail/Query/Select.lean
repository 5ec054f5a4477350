import FleetTrail.Query.Order
import FleetTrail.Query.Value

/-!
# Queries

A query ready to be sent: its text, the values bound in it, and what is to be noted about it.
-/

namespace FleetTrail.Query

/-- What is noted when a query is put together. -/
inductive Notice where
  | sort (notice : SortNotice)
  /-- Positions are looked up without any restriction. -/
  | allTelemetry
  deriving DecidableEq, Repr

def Notice.message : Notice → String
  | .sort notice => notice.message
  | .allTelemetry => "Resolving last positions across all telemetry"

/-- A query with its values. -/
structure Select where
  sql : String
  args : List Value
  notices : List Notice

end FleetTrail.Query
