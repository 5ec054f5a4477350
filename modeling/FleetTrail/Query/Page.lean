/-!
# Pages

The page of a listing that a caller gets: a positive limit is cut to the maximum, any other
becomes the default, and a negative offset becomes zero.
-/

namespace FleetTrail.Query

/-- The default and the greatest page size. -/
structure Limits where
  default : Int64
  max : Int64
  deriving DecidableEq, Repr

/-- The limits in force when nothing is configured. -/
def Limits.standard : Limits := ⟨50, 500⟩

structure Page where
  limit : Int64
  offset : Int64
  deriving DecidableEq, Repr

/-- The page for a requested limit and offset. -/
def Page.resolve (limits : Limits) (limit offset : Option Int64) : Page where
  limit :=
    match limit with
    | some l => if 0 < l then min l limits.max else limits.default
    | none => limits.default
  offset := max (offset.getD 0) 0

end FleetTrail.Query
