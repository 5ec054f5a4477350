import FleetTrail.Trip.Basic

/-!
# Trips in JSON

The JSON forms of trips and of what belongs to them.
-/

namespace FleetTrail.Trip

open Json (Fields)
open Json.Value

private def textOrNull (s : Option String) : Json.Value := ofOption .text s

private def numberOrNull (n : Option Int64) : Json.Value := ofOption ofInt64 n

private def instantJson (t : Time.Instant) : Json.Value := .text t.text

def jsonFields (t : Trip) : List (String × Json.Value) :=
  [("id", ofInt64 t.id),
    ("driverId", numberOrNull t.driverId),
    ("vehicleId", numberOrNull t.vehicleId),
    ("fromAddress", textOrNull t.fromAddress),
    ("toAddress", textOrNull t.toAddress),
    ("fromCountry", textOrNull t.fromCountry),
    ("toCountry", textOrNull t.toCountry),
    ("startDate", ofOption instantJson t.startDate),
    ("endDate", ofOption instantJson t.endDate),
    ("fromLocation", ofOption Geo.Point.toJson t.fromLocation),
    ("toLocation", ofOption Geo.Point.toJson t.toLocation),
    ("distanceKm", ofOption ofFloat t.distanceKm),
    ("status", .text t.status.text),
    ("metaFields", t.metaFields),
    ("gpsLogsSnapshot", ofOption (fun v => v) t.gpsLogsSnapshot),
    ("createdAt", instantJson t.createdAt),
    ("updatedAt", instantJson t.updatedAt)]

def toJson (t : Trip) : Json.Value := ofFields t.jsonFields

/-- Reads a trip from its fields; `readStatus` reads its status. -/
private def ofFields? (readStatus : Json.Value → Option Status) (r : Fields) : Option Trip := do
  return {
    id := ← r.required "id" int64?
    driverId := ← r.optional "driverId" int64?
    vehicleId := ← r.optional "vehicleId" int64?
    fromAddress := ← r.optional "fromAddress" text?
    toAddress := ← r.optional "toAddress" text?
    fromCountry := ← r.optional "fromCountry" text?
    toCountry := ← r.optional "toCountry" text?
    startDate := ← r.optional "startDate" instant?
    endDate := ← r.optional "endDate" instant?
    fromLocation := ← r.optional "fromLocation" Geo.Point.ofJson?
    toLocation := ← r.optional "toLocation" Geo.Point.ofJson?
    distanceKm := ← r.optional "distanceKm" float?
    status := ← r.required "status" readStatus
    metaFields := ← r.required "metaFields" freeForm?
    gpsLogsSnapshot := ← r.optional "gpsLogsSnapshot" freeForm?
    createdAt := ← r.required "createdAt" instant?
    updatedAt := ← r.required "updatedAt" instant? }

def ofJson? (v : Json.Value) : Option Trip := do
  ofFields? Status.ofJson? (← Fields.full?
    ["id", "driverId", "vehicleId", "fromAddress", "toAddress", "fromCountry", "toCountry",
      "startDate", "endDate", "fromLocation", "toLocation", "distanceKm", "status",
      "metaFields", "gpsLogsSnapshot", "createdAt", "updatedAt"] v)

def OfferLink.toJson (l : OfferLink) : Json.Value :=
  ofFields
    [("tripId", ofInt64 l.tripId),
      ("offerId", ofInt64 l.offerId),
      ("isMain", .bool l.isMain),
      ("status", .text l.status)]

def OfferLink.ofJson? (v : Json.Value) : Option OfferLink := do
  let r ← Fields.full? ["tripId", "offerId", "isMain", "status"] v
  return {
    tripId := ← r.required "tripId" int64?
    offerId := ← r.required "offerId" int64?
    isMain := ← r.required "isMain" bool?
    status := ← r.required "status" text? }

def DriverSummary.toJson (d : DriverSummary) : Json.Value :=
  ofFields [("id", ofInt64 d.id), ("name", textOrNull d.name), ("phone", textOrNull d.phone)]

def DriverSummary.ofJson? (v : Json.Value) : Option DriverSummary := do
  let r ← Fields.full? ["id", "name", "phone"] v
  return {
    id := ← r.required "id" int64?
    name := ← r.optional "name" text?
    phone := ← r.optional "phone" text? }

def VehicleSummary.toJson (d : VehicleSummary) : Json.Value :=
  ofFields
    [("id", ofInt64 d.id),
      ("plateNumber", textOrNull d.plateNumber),
      ("model", textOrNull d.model)]

def VehicleSummary.ofJson? (v : Json.Value) : Option VehicleSummary := do
  let r ← Fields.full? ["id", "plateNumber", "model"] v
  return {
    id := ← r.required "id" int64?
    plateNumber := ← r.optional "plateNumber" text?
    model := ← r.optional "model" text? }

/-- A link with its offer in JSON. It stands inside its trip, so the trip's id is left out. -/
def OfferDetail.toJson (d : OfferDetail) : Json.Value :=
  ofFields
    [("offerId", ofInt64 d.offerId),
      ("isMain", .bool d.isMain),
      ("status", .text d.status),
      ("offerStatus", textOrNull d.offerStatus),
      ("fromAddress", textOrNull d.fromAddress),
      ("toAddress", textOrNull d.toAddress)]

def OfferDetail.ofJson? (v : Json.Value) : Option OfferDetail := do
  let r ← Fields.full?
    ["offerId", "isMain", "status", "offerStatus", "fromAddress", "toAddress"] v
  return {
    tripId := 0
    offerId := ← r.required "offerId" int64?
    isMain := ← r.required "isMain" bool?
    status := ← r.required "status" text?
    offerStatus := ← r.optional "offerStatus" text?
    fromAddress := ← r.optional "fromAddress" text?
    toAddress := ← r.optional "toAddress" text? }

/-- A detailed trip in JSON: the fields of the trip with three more. -/
def Detailed.toJson (d : Detailed) : Json.Value :=
  ofFields (d.trip.jsonFields ++
    [("driver", ofOption DriverSummary.toJson d.driver),
      ("vehicle", ofOption VehicleSummary.toJson d.vehicle),
      ("offers", .list (d.offers.map OfferDetail.toJson))])

/-- Reads a detailed trip, whose own fields stand beside those of the trip embedded in it. -/
def Detailed.ofJson? (v : Json.Value) : Option Detailed := do
  let r ← Fields.ofObject? v
  return {
    trip := ← ofFields? Status.ofEmbeddedJson? r
    driver := ← r.optional "driver" DriverSummary.ofJson?
    vehicle := ← r.optional "vehicle" VehicleSummary.ofJson?
    offers := ← r.required "offers" (list? OfferDetail.ofJson?) }

end FleetTrail.Trip
