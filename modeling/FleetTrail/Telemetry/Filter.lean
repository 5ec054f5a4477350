import FleetTrail.Offer.Filter

/-!
# Telemetry criteria

What a caller may ask of a listing of telemetry samples, and the selection for the latest
positions. Absent criteria do not restrict; an empty selector covers all telemetry.
-/

namespace FleetTrail.Telemetry

structure Filter where
  id : Option Int64 := none
  tripId : Option Int64 := none
  companyId : Option Int64 := none
  offerId : Option Int64 := none
  driverId : Option Int64 := none
  vehicleId : Option Int64 := none
  status : Option String := none
  loggedFrom : Option Time.Instant := none
  loggedTo : Option Time.Instant := none
  createdFrom : Option Time.Instant := none
  createdTo : Option Time.Instant := none
  speedMin : Option Float := none
  speedMax : Option Float := none
  batteryMin : Option Float := none
  batteryMax : Option Float := none
  tripIds : Option (List Int64) := none
  companyIds : Option (List Int64) := none
  offerIds : Option (List Int64) := none
  driverIds : Option (List Int64) := none
  excludeDriverIds : Option (List Int64) := none
  vehicleIds : Option (List Int64) := none
  excludeVehicleIds : Option (List Int64) := none
  lat : Option Float := none
  lng : Option Float := none
  radiusKm : Option Float := none
  search : Option String := none
  offer : Option Offer.Filter := none
  orderBy : Option String := none
  orderDir : Option String := none
  limit : Option Int64 := none
  offset : Option Int64 := none

namespace Filter

private def fieldNames : List String :=
  ["id", "tripId", "companyId", "offerId", "driverId", "vehicleId", "status", "loggedFrom",
    "loggedTo", "createdFrom", "createdTo", "speedMin", "speedMax", "batteryMin", "batteryMax",
    "tripIds", "companyIds", "offerIds", "driverIds", "excludeDriverIds", "vehicleIds",
    "excludeVehicleIds", "lat", "lng", "radiusKm", "search", "offer", "orderBy", "orderDir",
    "limit", "offset"]

open Json.Value in
def ofJson? (v : Json.Value) : Option Filter := do
  let r ← Json.Fields.sparse? fieldNames v
  return {
    id := ← r.optional "id" int64?
    tripId := ← r.optional "tripId" int64?
    companyId := ← r.optional "companyId" int64?
    offerId := ← r.optional "offerId" int64?
    driverId := ← r.optional "driverId" int64?
    vehicleId := ← r.optional "vehicleId" int64?
    status := ← r.optional "status" text?
    loggedFrom := ← r.optional "loggedFrom" instant?
    loggedTo := ← r.optional "loggedTo" instant?
    createdFrom := ← r.optional "createdFrom" instant?
    createdTo := ← r.optional "createdTo" instant?
    speedMin := ← r.optional "speedMin" float?
    speedMax := ← r.optional "speedMax" float?
    batteryMin := ← r.optional "batteryMin" float?
    batteryMax := ← r.optional "batteryMax" float?
    tripIds := ← r.optional "tripIds" (list? int64?)
    companyIds := ← r.optional "companyIds" (list? int64?)
    offerIds := ← r.optional "offerIds" (list? int64?)
    driverIds := ← r.optional "driverIds" (list? int64?)
    excludeDriverIds := ← r.optional "excludeDriverIds" (list? int64?)
    vehicleIds := ← r.optional "vehicleIds" (list? int64?)
    excludeVehicleIds := ← r.optional "excludeVehicleIds" (list? int64?)
    lat := ← r.optional "lat" float?
    lng := ← r.optional "lng" float?
    radiusKm := ← r.optional "radiusKm" float?
    search := ← r.optional "search" text?
    offer := ← r.optional "offer" Offer.Filter.ofJson?
    orderBy := ← r.optional "orderBy" text?
    orderDir := ← r.optional "orderDir" text?
    limit := ← r.optional "limit" int64?
    offset := ← r.optional "offset" int64? }

end Filter

/-- Which samples the latest positions are chosen from. -/
structure Selector where
  tripIds : Option (List Int64) := none
  companyIds : Option (List Int64) := none
  offerIds : Option (List Int64) := none
  driverIds : Option (List Int64) := none
  vehicleIds : Option (List Int64) := none
  offer : Option Offer.Filter := none
  loggedAfter : Option Time.Instant := none

namespace Selector

private def fieldNames : List String :=
  ["tripIds", "companyIds", "offerIds", "driverIds", "vehicleIds", "offer", "loggedAfter"]

open Json.Value in
def ofJson? (v : Json.Value) : Option Selector := do
  let r ← Json.Fields.sparse? fieldNames v
  return {
    tripIds := ← r.optional "tripIds" (list? int64?)
    companyIds := ← r.optional "companyIds" (list? int64?)
    offerIds := ← r.optional "offerIds" (list? int64?)
    driverIds := ← r.optional "driverIds" (list? int64?)
    vehicleIds := ← r.optional "vehicleIds" (list? int64?)
    offer := ← r.optional "offer" Offer.Filter.ofJson?
    loggedAfter := ← r.optional "loggedAfter" instant? }

end Selector

end FleetTrail.Telemetry
