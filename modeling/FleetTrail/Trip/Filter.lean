import FleetTrail.Offer.Filter
import FleetTrail.Trip.Status

/-!
# Trip criteria

What a caller may ask of a listing of trips, with the sort and the page wanted. Absent criteria
do not restrict.
-/

namespace FleetTrail.Trip

structure Filter where
  id : Option Int64 := none
  driverId : Option Int64 := none
  vehicleId : Option Int64 := none
  status : Option Status := none
  fromCountry : Option String := none
  toCountry : Option String := none
  fromAddress : Option String := none
  toAddress : Option String := none
  startDateFrom : Option Time.Instant := none
  startDateTo : Option Time.Instant := none
  endDateFrom : Option Time.Instant := none
  endDateTo : Option Time.Instant := none
  createdFrom : Option Time.Instant := none
  createdTo : Option Time.Instant := none
  distanceMin : Option Float := none
  distanceMax : Option Float := none
  ids : Option (List Int64) := none
  excludeIds : Option (List Int64) := none
  driverIds : Option (List Int64) := none
  excludeDriverIds : Option (List Int64) := none
  vehicleIds : Option (List Int64) := none
  excludeVehicleIds : Option (List Int64) := none
  statuses : Option (List Status) := none
  /-- Centre and radius of a search around the origin of the trip. -/
  lat : Option Float := none
  lng : Option Float := none
  radiusKm : Option Float := none
  search : Option String := none
  offer : Option Offer.Filter := none
  orderBy : Option String := none
  orderDir : Option String := none
  limit : Option Int64 := none
  offset : Option Int64 := none

namespace Filter

private def fieldNames : List String :=
  ["id", "driverId", "vehicleId", "status", "fromCountry", "toCountry", "fromAddress",
    "toAddress", "startDateFrom", "startDateTo", "endDateFrom", "endDateTo", "createdFrom",
    "createdTo", "distanceMin", "distanceMax", "ids", "excludeIds", "driverIds",
    "excludeDriverIds", "vehicleIds", "excludeVehicleIds", "statuses", "lat", "lng", "radiusKm",
    "search", "offer", "orderBy", "orderDir", "limit", "offset"]

open Json.Value in
def ofJson? (v : Json.Value) : Option Filter := do
  let r ← Json.Fields.sparse? fieldNames v
  return {
    id := ← r.optional "id" int64?
    driverId := ← r.optional "driverId" int64?
    vehicleId := ← r.optional "vehicleId" int64?
    status := ← r.optional "status" Status.ofJson?
    fromCountry := ← r.optional "fromCountry" text?
    toCountry := ← r.optional "toCountry" text?
    fromAddress := ← r.optional "fromAddress" text?
    toAddress := ← r.optional "toAddress" text?
    startDateFrom := ← r.optional "startDateFrom" instant?
    startDateTo := ← r.optional "startDateTo" instant?
    endDateFrom := ← r.optional "endDateFrom" instant?
    endDateTo := ← r.optional "endDateTo" instant?
    createdFrom := ← r.optional "createdFrom" instant?
    createdTo := ← r.optional "createdTo" instant?
    distanceMin := ← r.optional "distanceMin" float?
    distanceMax := ← r.optional "distanceMax" float?
    ids := ← r.optional "ids" (list? int64?)
    excludeIds := ← r.optional "excludeIds" (list? int64?)
    driverIds := ← r.optional "driverIds" (list? int64?)
    excludeDriverIds := ← r.optional "excludeDriverIds" (list? int64?)
    vehicleIds := ← r.optional "vehicleIds" (list? int64?)
    excludeVehicleIds := ← r.optional "excludeVehicleIds" (list? int64?)
    statuses := ← r.optional "statuses" (list? Status.ofJson?)
    lat := ← r.optional "lat" float?
    lng := ← r.optional "lng" float?
    radiusKm := ← r.optional "radiusKm" float?
    search := ← r.optional "search" text?
    offer := ← r.optional "offer" Offer.Filter.ofJson?
    orderBy := ← r.optional "orderBy" text?
    orderDir := ← r.optional "orderDir" text?
    limit := ← r.optional "limit" int64?
    offset := ← r.optional "offset" int64? }

end Filter

end FleetTrail.Trip
