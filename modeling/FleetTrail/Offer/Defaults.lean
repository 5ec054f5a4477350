import FleetTrail.Store.Column

/-!
# What a trip inherits

The fields of an offer that a trip takes over where its own are not given.
-/

namespace FleetTrail.Offer

/-- Fields of an offer. Locations are the store's texts of points. -/
structure Defaults where
  id : Int64
  driverId : Option Int64 := none
  vehicleId : Option Int64 := none
  fromAddress : Option String := none
  toAddress : Option String := none
  fromCountry : Option String := none
  toCountry : Option String := none
  fromLocation : Option String := none
  toLocation : Option String := none
  distanceKm : Option Float := none

open Store in
def Defaults.ofRow (row : Row) : Except StoreError Defaults := do
  return {
    id := ← row.value "id" Cell.int?
    driverId := ← row.optional "driver_id" Cell.int?
    vehicleId := ← row.optional "vehicle_id" Cell.int?
    fromAddress := ← row.optional "from_address" Cell.text?
    toAddress := ← row.optional "to_address" Cell.text?
    fromCountry := ← row.optional "from_country" Cell.text?
    toCountry := ← row.optional "to_country" Cell.text?
    fromLocation := ← row.optional "from_location" Cell.text?
    toLocation := ← row.optional "to_location" Cell.text?
    distanceKm := ← row.optional "distance_km" Cell.float? }

end FleetTrail.Offer
