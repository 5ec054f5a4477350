import FleetTrail.Offer.Defaults
import FleetTrail.Trip.Basic

/-!
# Opening a trip

What a caller gives to start a trip, how its links to offers are settled, and how the fields of
the new trip are found. The caller's own value wins, then the primary offer's, then NULL; only
the distance ends at zero.
-/

namespace FleetTrail.Trip

/-- An offer that a new trip is to fulfil. -/
structure OfferChoice where
  offerId : Int64
  isMain : Bool := false
  status : Option String := none

/-- What a caller gives to start a trip. -/
structure Opening where
  offers : List OfferChoice := []
  driverId : Option Int64 := none
  vehicleId : Option Int64 := none
  fromAddress : Option String := none
  toAddress : Option String := none
  fromCountry : Option String := none
  toCountry : Option String := none
  fromLocation : Option Geo.Point := none
  toLocation : Option Geo.Point := none
  distanceKm : Option Float := none
  startDate : Option Time.Instant := none
  metaFields : Option Json.Value := none

/-- The fields of a new trip. Locations are tokens of points. -/
structure Draft where
  driverId : Option Int64
  vehicleId : Option Int64
  fromAddress : Option String
  toAddress : Option String
  fromCountry : Option String
  toCountry : Option String
  fromLocation : Option String
  toLocation : Option String
  distanceKm : Float
  startDate : Option Time.Instant
  metaFields : Json.Value

/-- The links of a new trip, in order. The first one is to the primary offer, whichever is
main. -/
structure Links where
  primary : OfferChoice
  others : List OfferChoice

/-- All links, the primary one first. -/
def Links.toList (links : Links) : List OfferChoice := links.primary :: links.others

/-- Settles which link is main. At most one offer may be flagged, and the first one is promoted
when none is. -/
def Links.ofChoices (offers : List OfferChoice) : Except Failure Links :=
  match offers with
  | [] => .error (.validation .noOffers)
  | first :: rest =>
    let flagged := offers.countP (·.isMain)
    if 1 < flagged then .error (.validation (.severalMain flagged))
    else if flagged = 0 then .ok ⟨{ first with isMain := true }, rest⟩
    else .ok ⟨first, rest⟩

/-- The token of a location: that of the caller's point, unless it is absent or null; else that
of the offer's point, which must decode. -/
def resolveLocation (explicit : Option Geo.Point) (fallback : Option String) :
    Except Failure (Option String) :=
  match Geo.Point.tokenOf explicit with
  | some token => .ok (some token)
  | none => do return Geo.Point.tokenOf (← locationOf fallback)

/-- The fields of a new trip. The origin is resolved before the destination. -/
def Opening.draft (o : Opening) (primary : Offer.Defaults) : Except Failure Draft := do
  let fromLocation ← resolveLocation o.fromLocation primary.fromLocation
  let toLocation ← resolveLocation o.toLocation primary.toLocation
  return {
    driverId := o.driverId <|> primary.driverId
    vehicleId := o.vehicleId <|> primary.vehicleId
    fromAddress := o.fromAddress <|> primary.fromAddress
    toAddress := o.toAddress <|> primary.toAddress
    fromCountry := o.fromCountry <|> primary.fromCountry
    toCountry := o.toCountry <|> primary.toCountry
    fromLocation
    toLocation
    distanceKm := (o.distanceKm <|> primary.distanceKm).getD 0.0
    startDate := o.startDate
    metaFields := o.metaFields.getD (.record []) }

open Json.Value in
def OfferChoice.toJson (c : OfferChoice) : Json.Value :=
  ofFields
    [("offerId", ofInt64 c.offerId),
      ("isMain", .bool c.isMain),
      ("status", ofOption .text c.status)]

open Json.Value in
def OfferChoice.ofJson? (v : Json.Value) : Option OfferChoice := do
  let r ← Json.Fields.full? ["offerId", "isMain", "status"] v
  return {
    offerId := ← r.required "offerId" int64?
    isMain := ← r.defaulted "isMain" false bool?
    status := ← r.optional "status" text? }

open Json.Value in
def Opening.toJson (o : Opening) : Json.Value :=
  ofFields
    [("offers", .list (o.offers.map OfferChoice.toJson)),
      ("driverId", ofOption ofInt64 o.driverId),
      ("vehicleId", ofOption ofInt64 o.vehicleId),
      ("fromAddress", ofOption .text o.fromAddress),
      ("toAddress", ofOption .text o.toAddress),
      ("fromCountry", ofOption .text o.fromCountry),
      ("toCountry", ofOption .text o.toCountry),
      ("fromLocation", ofOption Geo.Point.toJson o.fromLocation),
      ("toLocation", ofOption Geo.Point.toJson o.toLocation),
      ("distanceKm", ofOption ofFloat o.distanceKm),
      ("startDate", ofOption (fun t => .text t.text) o.startDate),
      ("metaFields", ofOption (fun v => v) o.metaFields)]

open Json.Value in
def Opening.ofJson? (v : Json.Value) : Option Opening := do
  let r ← Json.Fields.sparse?
    ["offers", "driverId", "vehicleId", "fromAddress", "toAddress", "fromCountry", "toCountry",
      "fromLocation", "toLocation", "distanceKm", "startDate", "metaFields"] v
  return {
    offers := ← r.defaulted "offers" [] (list? OfferChoice.ofJson?)
    driverId := ← r.optional "driverId" int64?
    vehicleId := ← r.optional "vehicleId" int64?
    fromAddress := ← r.optional "fromAddress" text?
    toAddress := ← r.optional "toAddress" text?
    fromCountry := ← r.optional "fromCountry" text?
    toCountry := ← r.optional "toCountry" text?
    fromLocation := ← r.optional "fromLocation" Geo.Point.ofJson?
    toLocation := ← r.optional "toLocation" Geo.Point.ofJson?
    distanceKm := ← r.optional "distanceKm" float?
    startDate := ← r.optional "startDate" instant?
    metaFields := ← r.optional "metaFields" freeForm? }

end FleetTrail.Trip
