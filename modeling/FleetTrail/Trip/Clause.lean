import FleetTrail.Query.Builder
import FleetTrail.Query.Order
import FleetTrail.Trip.Filter

/-!
# The clause of a trip filter

The calls that state trip criteria in SQL, over the trips `t` with their drivers `d` and
vehicles `v`, and the keys that trips may be sorted by.
-/

namespace FleetTrail.Trip

open Query

/-- The sort keys of trips; the first is the fallback. -/
def sortKeys : List SortKey :=
  [⟨"id", "t.id"⟩,
    ⟨"createdAt", "t.created_at"⟩,
    ⟨"updatedAt", "t.updated_at"⟩,
    ⟨"startDate", "t.start_date"⟩,
    ⟨"endDate", "t.end_date"⟩,
    ⟨"distanceKm", "t.distance_km"⟩,
    ⟨"status", "t.status"⟩,
    ⟨"driverId", "t.driver_id"⟩,
    ⟨"vehicleId", "t.vehicle_id"⟩]

def searchColumns : List String :=
  ["t.from_address", "t.to_address", "t.from_country", "t.to_country", "d.name",
    "v.plate_number"]

/-- The calls of a trip filter, restricted to trips of the listed offers when a list is given. -/
def Filter.calls (f : Filter) (offerIds : Option (List Int64)) : List Call :=
  [.guard "t.deleted = false",
    .offerIds "t.id IN (SELECT l.trip_id FROM trip_offers l WHERE l.offer_id = ANY($?))" offerIds,
    .eq "t.id" (f.id.map .int),
    .eq "t.driver_id" (f.driverId.map .int),
    .eq "t.vehicle_id" (f.vehicleId.map .int),
    .eq "t.status" (f.status.map fun s => .text s.text),
    .eq "t.from_country" (f.fromCountry.map .text),
    .eq "t.to_country" (f.toCountry.map .text),
    .contains ["t.from_address"] f.fromAddress,
    .contains ["t.to_address"] f.toAddress,
    .range "t.start_date" (f.startDateFrom.map .time) (f.startDateTo.map .time),
    .range "t.end_date" (f.endDateFrom.map .time) (f.endDateTo.map .time),
    .range "t.created_at" (f.createdFrom.map .time) (f.createdTo.map .time),
    .range "t.distance_km" (f.distanceMin.map .float) (f.distanceMax.map .float),
    .within "t.id" (f.ids.map .ints),
    .notWithin "t.id" (f.excludeIds.map .ints),
    .within "t.driver_id" (f.driverIds.map .ints),
    .notWithin "t.driver_id" (f.excludeDriverIds.map .ints),
    .within "t.vehicle_id" (f.vehicleIds.map .ints),
    .notWithin "t.vehicle_id" (f.excludeVehicleIds.map .ints),
    .within "t.status" (f.statuses.map fun ss => .texts (ss.map Status.text)),
    .withinRadius "t.from_location" f.lat f.lng f.radiusKm,
    .search searchColumns f.search]

def Filter.compile (f : Filter) (offerIds : Option (List Int64)) : Except Fault Compiled :=
  Query.compile (f.calls offerIds)

end FleetTrail.Trip
