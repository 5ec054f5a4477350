import FleetTrail.Time.Instant

/-!
# Bound values

The values that a query binds to its placeholders.
-/

namespace FleetTrail.Query

/-- A value bound to a positional placeholder. -/
inductive Value where
  | int (n : Int64)
  | float (x : Float)
  | text (s : String)
  | bool (b : Bool)
  | time (t : Time.Instant)
  | ints (ns : List Int64)
  | texts (ss : List String)

end FleetTrail.Query
