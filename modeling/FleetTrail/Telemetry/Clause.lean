import FleetTrail.Query.Builder
import FleetTrail.Query.Order
import FleetTrail.Telemetry.Filter

/-!
# The clauses of telemetry criteria

The calls that state telemetry criteria and position selectors in SQL, over the samples `g`
with their trips `t`, drivers `d` and vehicles `v`, and the keys that samples may be sorted by.
-/

namespace FleetTrail.Telemetry

open Query

/-- The sort keys of samples; the first is the fallback. -/
def sortKeys : List SortKey :=
  [⟨"id", "g.id"⟩,
    ⟨"loggedAt", "g.logged_at"⟩,
    ⟨"createdAt", "g.created_at"⟩,
    ⟨"speed", "g.speed"⟩,
    ⟨"batteryLevel", "g.battery_level"⟩,
    ⟨"tripId", "g.trip_id"⟩,
    ⟨"driverId", "g.driver_id"⟩,
    ⟨"vehicleId", "g.vehicle_id"⟩]

def searchColumns : List String := ["g.status", "d.name", "v.plate_number"]

/-- Samples of deleted trips are out; a sample without a trip stays. -/
def liveTrip : Call := .guard "COALESCE(t.deleted, false) = false"

def ofOffers (ids : Option (List Int64)) : Call :=
  .offerIds "g.offer_id = ANY($?)" ids

def between (column : String) (least most : Option Time.Instant) : Call :=
  .range column (least.map .time) (most.map .time)

def measured (column : String) (least most : Option Float) : Call :=
  .range column (least.map .float) (most.map .float)

def oneOf (column : String) (ids : Option (List Int64)) : Call :=
  .within column (ids.map .ints)

def noneOf (column : String) (ids : Option (List Int64)) : Call :=
  .notWithin column (ids.map .ints)

/-- The calls of a telemetry filter, restricted to the listed offers when a list is given. -/
def Filter.calls (f : Filter) (offerIds : Option (List Int64)) : List Call :=
  [liveTrip,
    ofOffers offerIds,
    .eq "g.id" (f.id.map .int),
    .eq "g.trip_id" (f.tripId.map .int),
    .eq "g.company_id" (f.companyId.map .int),
    .eq "g.offer_id" (f.offerId.map .int),
    .eq "g.driver_id" (f.driverId.map .int),
    .eq "g.vehicle_id" (f.vehicleId.map .int),
    .eq "g.status" (f.status.map .text),
    between "g.logged_at" f.loggedFrom f.loggedTo,
    between "g.created_at" f.createdFrom f.createdTo,
    measured "g.speed" f.speedMin f.speedMax,
    measured "g.battery_level" f.batteryMin f.batteryMax,
    oneOf "g.trip_id" f.tripIds,
    oneOf "g.company_id" f.companyIds,
    oneOf "g.offer_id" f.offerIds,
    oneOf "g.driver_id" f.driverIds,
    noneOf "g.driver_id" f.excludeDriverIds,
    oneOf "g.vehicle_id" f.vehicleIds,
    noneOf "g.vehicle_id" f.excludeVehicleIds,
    .withinRadius "g.coordinates" f.lat f.lng f.radiusKm,
    .search searchColumns f.search]

def Filter.compile (f : Filter) (offerIds : Option (List Int64)) : Except Fault Compiled :=
  Query.compile (f.calls offerIds)

def Selector.calls (s : Selector) (offerIds : Option (List Int64)) : List Call :=
  [liveTrip,
    ofOffers offerIds,
    between "g.logged_at" s.loggedAfter none,
    oneOf "g.trip_id" s.tripIds,
    oneOf "g.company_id" s.companyIds,
    oneOf "g.offer_id" s.offerIds,
    oneOf "g.driver_id" s.driverIds,
    oneOf "g.vehicle_id" s.vehicleIds]

def Selector.compile (s : Selector) (offerIds : Option (List Int64)) : Except Fault Compiled :=
  Query.compile (s.calls offerIds)

end FleetTrail.Telemetry
