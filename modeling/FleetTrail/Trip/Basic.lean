import FleetTrail.Failure
import FleetTrail.Store.Column
import FleetTrail.Trip.Status

/-!
# Trips

A trip as callers see it, as it stands in the store, and together with its driver, its vehicle
and the offers it fulfils.
-/

namespace FleetTrail

structure Trip where
  id : Int64
  driverId : Option Int64
  vehicleId : Option Int64
  fromAddress : Option String
  toAddress : Option String
  fromCountry : Option String
  toCountry : Option String
  startDate : Option Time.Instant
  endDate : Option Time.Instant
  fromLocation : Option Geo.Point
  toLocation : Option Geo.Point
  distanceKm : Option Float
  status : Trip.Status
  metaFields : Json.Value
  gpsLogsSnapshot : Option Json.Value
  createdAt : Time.Instant
  updatedAt : Time.Instant

namespace Trip

/-- A trip as it stands in the store, with its points and its status as texts. -/
structure TripRow where
  id : Int64
  driverId : Option Int64
  vehicleId : Option Int64
  fromAddress : Option String
  toAddress : Option String
  fromCountry : Option String
  toCountry : Option String
  startDate : Option Time.Instant
  endDate : Option Time.Instant
  fromLocation : Option String
  toLocation : Option String
  distanceKm : Option Float
  status : String
  metaFields : Json.Value
  gpsLogsSnapshot : Option Json.Value
  createdAt : Time.Instant
  updatedAt : Time.Instant

/-- A link between a trip and an offer it fulfils. -/
structure OfferLink where
  tripId : Int64
  offerId : Int64
  isMain : Bool
  status : String

structure DriverSummary where
  id : Int64
  name : Option String
  phone : Option String

structure VehicleSummary where
  id : Int64
  plateNumber : Option String
  model : Option String

/-- A link with what a listing shows of its offer. -/
structure OfferDetail where
  tripId : Int64
  offerId : Int64
  isMain : Bool
  status : String
  offerStatus : Option String
  fromAddress : Option String
  toAddress : Option String

/-- A trip with its driver, its vehicle and its offers. -/
structure Detailed where
  trip : Trip
  driver : Option DriverSummary
  vehicle : Option VehicleSummary
  offers : List OfferDetail

/-- A trip row joined with the columns of its driver and its vehicle. -/
structure DetailedRow where
  trip : TripRow
  driverName : Option String
  driverPhone : Option String
  vehiclePlateNumber : Option String
  vehicleModel : Option String
  joinedDriverId : Option Int64
  joinedVehicleId : Option Int64

/-- Reads a status, or says which text is none. -/
def Status.ofText (s : String) : Except Failure Status :=
  match Status.ofText? s with
  | some status => .ok status
  | none => .error (.validation (.unknownStatus s))

def locationOf (raw : Option String) : Except Failure (Option Geo.Point) :=
  match Geo.Point.ofOptionalText raw with
  | .ok p => .ok p
  | .error e => .error (.decode e)

/-- The trip of a row. The origin is decoded first, then the destination, then the status. -/
def TripRow.trip (row : TripRow) : Except Failure Trip := do
  let fromLocation ← locationOf row.fromLocation
  let toLocation ← locationOf row.toLocation
  let status ← Status.ofText row.status
  return {
    id := row.id
    driverId := row.driverId
    vehicleId := row.vehicleId
    fromAddress := row.fromAddress
    toAddress := row.toAddress
    fromCountry := row.fromCountry
    toCountry := row.toCountry
    startDate := row.startDate
    endDate := row.endDate
    fromLocation
    toLocation
    distanceKm := row.distanceKm
    status
    metaFields := row.metaFields
    gpsLogsSnapshot := row.gpsLogsSnapshot
    createdAt := row.createdAt
    updatedAt := row.updatedAt }

/-- The detailed trip of a row. Driver and vehicle are there when their ids are. -/
def DetailedRow.detailed (row : DetailedRow) (offers : List OfferDetail) :
    Except Failure Detailed := do
  let trip ← row.trip.trip
  return {
    trip
    driver := row.joinedDriverId.map fun id => ⟨id, row.driverName, row.driverPhone⟩
    vehicle := row.joinedVehicleId.map fun id => ⟨id, row.vehiclePlateNumber, row.vehicleModel⟩
    offers }

open Store in
def TripRow.ofRow (row : Row) : Except StoreError TripRow := do
  return {
    id := ← row.value "id" Cell.int?
    driverId := ← row.optional "driver_id" Cell.int?
    vehicleId := ← row.optional "vehicle_id" Cell.int?
    fromAddress := ← row.optional "from_address" Cell.text?
    toAddress := ← row.optional "to_address" Cell.text?
    fromCountry := ← row.optional "from_country" Cell.text?
    toCountry := ← row.optional "to_country" Cell.text?
    startDate := ← row.optional "start_date" Cell.time?
    endDate := ← row.optional "end_date" Cell.time?
    fromLocation := ← row.optional "from_location" Cell.text?
    toLocation := ← row.optional "to_location" Cell.text?
    distanceKm := ← row.optional "distance_km" Cell.float?
    status := ← row.value "status" Cell.text?
    metaFields := ← row.value "meta_fields" Cell.json?
    gpsLogsSnapshot := ← row.optional "gps_logs_snapshot" Cell.json?
    createdAt := ← row.value "created_at" Cell.time?
    updatedAt := ← row.value "updated_at" Cell.time? }

open Store in
def DetailedRow.ofRow (row : Row) : Except StoreError DetailedRow := do
  return {
    trip := ← TripRow.ofRow row
    driverName := ← row.optional "driver_name" Cell.text?
    driverPhone := ← row.optional "driver_phone" Cell.text?
    vehiclePlateNumber := ← row.optional "vehicle_plate_number" Cell.text?
    vehicleModel := ← row.optional "vehicle_model" Cell.text?
    joinedDriverId := ← row.optional "joined_driver_id" Cell.int?
    joinedVehicleId := ← row.optional "joined_vehicle_id" Cell.int? }

open Store in
def OfferDetail.ofRow (row : Row) : Except StoreError OfferDetail := do
  return {
    tripId := ← row.value "trip_id" Cell.int?
    offerId := ← row.value "offer_id" Cell.int?
    isMain := ← row.value "is_main" Cell.bool?
    status := ← row.value "status" Cell.text?
    offerStatus := ← row.optional "offer_status" Cell.text?
    fromAddress := ← row.optional "from_address" Cell.text?
    toAddress := ← row.optional "to_address" Cell.text? }

end Trip

end FleetTrail
