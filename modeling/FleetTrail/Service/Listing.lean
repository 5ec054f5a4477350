import FleetTrail.Service.Transaction
import FleetTrail.Telemetry.Sample
import FleetTrail.Telemetry.Select
import FleetTrail.Trip.Basic
import FleetTrail.Trip.Select

/-!
# Listings

The queries of callers. Offer criteria are resolved first; when they match nothing the listing
is empty and no further query runs. All rows of an answer are read before the first one is
converted, so a listing is complete or fails as a whole.
-/

namespace FleetTrail.Service

open Store Query

/-- The values of a query as they are bound. -/
def boundArgs (args : List Value) : List Bound := args.map Bound.ofValue

/-- Notes what there is to be noted about a query. -/
def noteAll (notices : List Notice) : Work Unit :=
  notices.forM fun n => Work.log .debug n.message

/-- A query that was put together, or the fault in it. -/
def built {α : Type} (result : Except Fault α) : Work α := check (result.mapError Failure.fault)

/-- Runs a query and reads every row. -/
def fetch {α : Type} (select : Select) (read : Row → Except StoreError α) : Work (List α) := do
  noteAll select.notices
  let reply ← ask .database select.sql (boundArgs select.args)
  decode .database (reply.rows.mapM read)

/-- Resolves offer criteria. The store is asked only when a criterion is set. -/
def correlate (filter : Option Offer.Filter) : Work Offer.Correlation := do
  match ← built (Offer.idSelect filter) with
  | none => return .unfiltered
  | some select =>
    let correlation := Offer.Correlation.ofIds (← fetch select Row.id)
    if correlation = .noMatch then
      Work.log .debug "Offer criteria matched nothing, short-circuiting"
    return correlation

def listTrips (limits : Limits) (filter : Trip.Filter) : Work (List Trip) := do
  let correlation ← correlate filter.offer
  match ← built (Trip.select filter correlation limits none) with
  | none => return []
  | some select =>
    let rows ← fetch select Trip.TripRow.ofRow
    check (rows.mapM Trip.TripRow.trip)

/-- Nests links in the trips of a page. The links of a trip go to its first row on the page;
`seen` holds the ids of the rows before. -/
def nest (links : List Trip.OfferDetail) :
    List Int64 → List Trip.DetailedRow → Except Failure (List Trip.Detailed)
  | _, [] => .ok []
  | seen, row :: rest => do
    let id := row.trip.id
    let offers := if id ∈ seen then [] else links.filter (·.tripId = id)
    let trip ← row.detailed offers
    return trip :: (← nest links (id :: seen) rest)

/-- The trips that match a filter with driver, vehicle and offers. The links of the whole page
are looked up at once. -/
def listDetailed (limits : Limits) (filter : Trip.Filter) : Work (List Trip.Detailed) := do
  let correlation ← correlate filter.offer
  match ← built (Trip.select filter correlation limits (some Sql.tripDetailColumns)) with
  | none => return []
  | some select =>
    let rows ← fetch select Trip.DetailedRow.ofRow
    if rows.isEmpty then return []
    let reply ← ask .database Sql.selectTripOfferDetails [.ints (rows.map (·.trip.id))]
    let links ← decode .database (reply.rows.mapM Trip.OfferDetail.ofRow)
    check (nest links [] rows)

private def samples (rows : List Telemetry.SampleRow) : Work (List Telemetry.Sample) :=
  check ((rows.mapM Telemetry.SampleRow.sample).mapError Failure.decode)

def listTelemetry (limits : Limits) (filter : Telemetry.Filter) :
    Work (List Telemetry.Sample) := do
  let correlation ← correlate filter.offer
  match ← built (Telemetry.select filter correlation limits) with
  | none => return []
  | some select => samples (← fetch select Telemetry.SampleRow.ofRow)

/-- The latest sample of each combination of trip, driver and vehicle. -/
def lastPositions (selector : Telemetry.Selector) : Work (List Telemetry.Sample) := do
  let correlation ← correlate selector.offer
  match ← built (Telemetry.lastPositionSelect selector correlation) with
  | none => return []
  | some select => samples (← fetch select Telemetry.SampleRow.ofRow)

/-- Runs a query that gives ids, with the values as they come. -/
def listIds (sql : String) (values : List Value) : Work (List Int64) :=
  fetch ⟨sql, values, []⟩ Row.id

end FleetTrail.Service
