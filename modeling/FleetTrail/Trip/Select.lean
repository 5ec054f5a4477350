import FleetTrail.Offer.Correlation
import FleetTrail.Query.Page
import FleetTrail.Trip.Clause

/-!
# The query of a trip listing

One page of the trips that match a filter, restricted to trips of the correlated offers.
-/

namespace FleetTrail.Trip

open Query Offer

/-- The query of a listing, with extra columns when given; `none` when the offer criteria
matched nothing. -/
def select (filter : Filter) (correlation : Correlation) (limits : Limits)
    (extraColumns : Option String) : Except Fault (Option Select) := do
  if correlation = .noMatch then return none
  let compiled ← filter.compile correlation.ids?
  let (order, notice) ← Order.resolve sortKeys filter.orderBy filter.orderDir
  let page := Page.resolve limits filter.limit filter.offset
  let (limit, compiled) ← compiled.limitClause page.limit page.offset
  let columns :=
    match extraColumns with
    | some extra => Store.Sql.tripColumns ++ ", " ++ extra
    | none => Store.Sql.tripColumns
  return some
    { sql := "SELECT " ++ columns ++ " " ++ Store.Sql.tripFrom ++ " " ++ compiled.clause ++ " " ++
        order.sql ++ ", t.id DESC " ++ limit
      args := compiled.args
      notices := notice.toList.map Notice.sort }

end FleetTrail.Trip
