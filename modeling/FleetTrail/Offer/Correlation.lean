import FleetTrail.Offer.Clause
import FleetTrail.Query.Select
import FleetTrail.Store.Sql

/-!
# From offer criteria to offer ids

Offer criteria are resolved to the ids of the matching offers before the query that they
restrict. Criteria that match nothing are told apart from no criteria at all: the former leave
nothing to list, the latter do not restrict.
-/

namespace FleetTrail.Offer

open Query

/-- The outcome of resolving offer criteria. -/
inductive Correlation where
  | unfiltered
  | matched (ids : List Int64)
  /-- Criteria were given and no offer matched. -/
  | noMatch
  deriving DecidableEq, Repr

namespace Correlation

/-- The outcome for the ids that a lookup found. -/
def ofIds : List Int64 → Correlation
  | [] => .noMatch
  | ids => .matched ids

/-- The ids to restrict to, if any. -/
def ids? : Correlation → Option (List Int64)
  | .matched ids => some ids
  | _ => none

end Correlation

/-- The lookup of the ids that match a filter; `none` when no criterion is set, since a lookup
without criteria would find every live offer. -/
def idSelect (filter : Option Filter) : Except Fault (Option Select) := do
  match filter with
  | none => return none
  | some f =>
    if f.isEmpty then return none
    let compiled ← f.compile
    if compiled.filterCount = 0 then return none
    return some
      { sql := "SELECT DISTINCT o.id " ++ Store.Sql.offerFrom ++ " " ++ compiled.clause ++
          " ORDER BY o.id"
        args := compiled.args
        notices := [] }

end FleetTrail.Offer
