import FleetTrail.Offer.Correlation
import FleetTrail.Query.Page
import FleetTrail.Telemetry.Clause

/-!
# The queries of telemetry

One page of the samples that match a filter, and the latest sample of each combination of trip,
driver and vehicle.
-/

namespace FleetTrail.Telemetry

open Query Offer

/-- The query of a listing; `none` when the offer criteria matched nothing. -/
def select (filter : Filter) (correlation : Correlation) (limits : Limits) :
    Except Fault (Option Select) := do
  if correlation = .noMatch then return none
  let compiled ← filter.compile correlation.ids?
  let (order, notice) ← Order.resolve sortKeys filter.orderBy filter.orderDir
  let page := Page.resolve limits filter.limit filter.offset
  let (limit, compiled) ← compiled.limitClause page.limit page.offset
  return some
    { sql := "SELECT " ++ Store.Sql.telemetryColumns ++ " " ++ Store.Sql.telemetryFrom ++ " " ++
        compiled.clause ++ " " ++ order.sql ++ ", g.id DESC " ++ limit
      args := compiled.args
      notices := notice.toList.map Notice.sort }

/-- What a position belongs to; missing ids count as zero. -/
def entityKey : String :=
  "COALESCE(g.trip_id, 0), COALESCE(g.driver_id, 0), COALESCE(g.vehicle_id, 0)"

/-- The query of the latest positions; `none` when the offer criteria matched nothing. -/
def lastPositionSelect (selector : Selector) (correlation : Correlation) :
    Except Fault (Option Select) := do
  if correlation = .noMatch then return none
  let compiled ← selector.compile correlation.ids?
  return some
    { sql := "SELECT DISTINCT ON (" ++ entityKey ++ ") " ++ Store.Sql.telemetryColumns ++ " " ++
        Store.Sql.telemetryFrom ++ " " ++ compiled.clause ++ " ORDER BY " ++ entityKey ++
        ", g.logged_at DESC, g.id DESC"
      args := compiled.args
      notices := if compiled.filterCount = 0 then [.allTelemetry] else [] }

end FleetTrail.Telemetry
