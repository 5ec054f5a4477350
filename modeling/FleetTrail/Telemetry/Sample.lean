import FleetTrail.Geo.Point
import FleetTrail.Store.Column

/-!
# Telemetry samples

A sample is one position with the readings of its sensors at one time. It is read from the
store row by row, and ingested as a reading, which gets its id and its time of creation from
the store.
-/

namespace FleetTrail.Telemetry

structure Sample where
  id : Int64
  companyId : Option Int64
  vehicleId : Int64
  driverId : Int64
  offerId : Option Int64
  tripId : Option Int64
  batteryLevel : Option Float
  speed : Option Float
  heading : Option Float
  accuracy : Option Float
  coordinates : Geo.Point
  status : String
  loggedAt : Time.Instant
  createdAt : Time.Instant

/-- A sample as it stands in the store, its point as text. -/
structure SampleRow where
  id : Int64
  companyId : Option Int64
  vehicleId : Int64
  driverId : Int64
  offerId : Option Int64
  tripId : Option Int64
  batteryLevel : Option Float
  speed : Option Float
  heading : Option Float
  accuracy : Option Float
  coordinates : Option String
  status : String
  loggedAt : Time.Instant
  createdAt : Time.Instant

/-- A sample to be ingested. -/
structure Reading where
  companyId : Option Int64
  vehicleId : Int64
  driverId : Int64
  offerId : Option Int64
  tripId : Option Int64
  batteryLevel : Option Float
  speed : Option Float
  heading : Option Float
  accuracy : Option Float
  coordinates : Geo.Point
  status : Option String
  loggedAt : Option Time.Instant

open Store in
def SampleRow.ofRow (row : Row) : Except StoreError SampleRow := do
  return {
    id := ← row.value "id" Cell.int?
    companyId := ← row.optional "company_id" Cell.int?
    vehicleId := ← row.value "vehicle_id" Cell.int?
    driverId := ← row.value "driver_id" Cell.int?
    offerId := ← row.optional "offer_id" Cell.int?
    tripId := ← row.optional "trip_id" Cell.int?
    batteryLevel := ← row.optional "battery_level" Cell.float?
    speed := ← row.optional "speed" Cell.float?
    heading := ← row.optional "heading" Cell.float?
    accuracy := ← row.optional "accuracy" Cell.float?
    coordinates := ← row.optional "coordinates" Cell.text?
    status := ← row.value "status" Cell.text?
    loggedAt := ← row.value "logged_at" Cell.time?
    createdAt := ← row.value "created_at" Cell.time? }

/-- The sample of a row. A NULL point was written from the null point. -/
def SampleRow.sample (row : SampleRow) : Except Geo.PointError Sample := do
  let point ← Geo.Point.ofOptionalText row.coordinates
  return {
    id := row.id
    companyId := row.companyId
    vehicleId := row.vehicleId
    driverId := row.driverId
    offerId := row.offerId
    tripId := row.tripId
    batteryLevel := row.batteryLevel
    speed := row.speed
    heading := row.heading
    accuracy := row.accuracy
    coordinates := point.getD Geo.Point.origin
    status := row.status
    loggedAt := row.loggedAt
    createdAt := row.createdAt }

/-- The status of a reading that gives none. -/
def defaultStatus : String := "active"

/-- The status of a reading; a blank one counts as none. -/
def Reading.statusOrDefault (r : Reading) : String :=
  match r.status with
  | some s => if Text.allBlank s then defaultStatus else s
  | none => defaultStatus

open Json in
private def idOrNull (id : Option Int64) : Value := .ofOption .ofInt64 id

open Json in
private def levelOrNull (x : Option Float) : Value := .ofOption .ofFloat x

open Json in
def Sample.toJson (s : Sample) : Value :=
  .ofFields
    [("id", .ofInt64 s.id),
      ("companyId", idOrNull s.companyId),
      ("vehicleId", .ofInt64 s.vehicleId),
      ("driverId", .ofInt64 s.driverId),
      ("offerId", idOrNull s.offerId),
      ("tripId", idOrNull s.tripId),
      ("batteryLevel", levelOrNull s.batteryLevel),
      ("speed", levelOrNull s.speed),
      ("heading", levelOrNull s.heading),
      ("accuracy", levelOrNull s.accuracy),
      ("coordinates", s.coordinates.toJson),
      ("status", .text s.status),
      ("loggedAt", .text s.loggedAt.text),
      ("createdAt", .text s.createdAt.text)]

open Json in
def Reading.toJson (r : Reading) : Value :=
  .ofFields
    [("companyId", idOrNull r.companyId),
      ("vehicleId", .ofInt64 r.vehicleId),
      ("driverId", .ofInt64 r.driverId),
      ("offerId", idOrNull r.offerId),
      ("tripId", idOrNull r.tripId),
      ("batteryLevel", levelOrNull r.batteryLevel),
      ("speed", levelOrNull r.speed),
      ("heading", levelOrNull r.heading),
      ("accuracy", levelOrNull r.accuracy),
      ("coordinates", r.coordinates.toJson),
      ("status", .ofOption .text r.status),
      ("loggedAt", .ofOption (fun t => .text t.text) r.loggedAt)]

open Json.Value in
def Sample.ofJson? (v : Json.Value) : Option Sample := do
  let r ← Json.Fields.full?
    ["id", "companyId", "vehicleId", "driverId", "offerId", "tripId", "batteryLevel", "speed",
      "heading", "accuracy", "coordinates", "status", "loggedAt", "createdAt"] v
  return {
    id := ← r.required "id" int64?
    companyId := ← r.optional "companyId" int64?
    vehicleId := ← r.required "vehicleId" int64?
    driverId := ← r.required "driverId" int64?
    offerId := ← r.optional "offerId" int64?
    tripId := ← r.optional "tripId" int64?
    batteryLevel := ← r.optional "batteryLevel" float?
    speed := ← r.optional "speed" float?
    heading := ← r.optional "heading" float?
    accuracy := ← r.optional "accuracy" float?
    coordinates := ← r.required "coordinates" Geo.Point.ofJson?
    status := ← r.required "status" text?
    loggedAt := ← r.required "loggedAt" instant?
    createdAt := ← r.required "createdAt" instant? }

open Json.Value in
def Reading.ofJson? (v : Json.Value) : Option Reading := do
  let r ← Json.Fields.full?
    ["companyId", "vehicleId", "driverId", "offerId", "tripId", "batteryLevel", "speed",
      "heading", "accuracy", "coordinates", "status", "loggedAt"] v
  return {
    companyId := ← r.optional "companyId" int64?
    vehicleId := ← r.required "vehicleId" int64?
    driverId := ← r.required "driverId" int64?
    offerId := ← r.optional "offerId" int64?
    tripId := ← r.optional "tripId" int64?
    batteryLevel := ← r.optional "batteryLevel" float?
    speed := ← r.optional "speed" float?
    heading := ← r.optional "heading" float?
    accuracy := ← r.optional "accuracy" float?
    coordinates := ← r.required "coordinates" Geo.Point.ofJson?
    status := ← r.optional "status" text?
    loggedAt := ← r.optional "loggedAt" instant? }

/-- The permanent record of a trip: its samples in JSON, in their order. -/
def snapshot (samples : List Sample) : Json.Value := .list (samples.map Sample.toJson)

end FleetTrail.Telemetry
