import FleetTrail.Proofs.Query.Criteria

/-!
# What the filters keep

For trips, telemetry and positions: the clause of a filter is always completed, and it keeps the
rows that pass the filter criterion by criterion. A criterion that is not set asks nothing, an empty
list keeps nothing, and an exclusion keeps what the list does not name, missing values included.
-/

namespace FleetTrail

open Sql Query

def Trip.LinkedTo (given : Given) (trip : Option Value) (offers : List Int64) : Prop :=
  ∃ link ∈ given.table "trip_offers", (∃ o ∈ offers, link "offer_id" = some (.int o)) ∧
    ∃ v w, trip = some v ∧ link "trip_id" = some w ∧ same v w

/-- The trip of a row passes a filter, restricted to offers when a list is given. -/
structure Trip.Filter.Passes (given : Given) (row : Row) (f : Trip.Filter)
    (offerIds : Option (List Int64)) : Prop where
  live : row "t" "deleted" = some (.bool false)
  offers : ∀ offers ∈ offerIds, Trip.LinkedTo given (row "t" "id") offers
  id : ∀ n ∈ f.id, row "t" "id" = some (.int n)
  driverId : ∀ n ∈ f.driverId, row "t" "driver_id" = some (.int n)
  vehicleId : ∀ n ∈ f.vehicleId, row "t" "vehicle_id" = some (.int n)
  status : ∀ s ∈ f.status, row "t" "status" = some (.text s.text)
  fromCountry : ∀ s ∈ f.fromCountry, row "t" "from_country" = some (.text s)
  toCountry : ∀ s ∈ f.toCountry, row "t" "to_country" = some (.text s)
  fromAddress : Mentions given [row "t" "from_address"] f.fromAddress
  toAddress : Mentions given [row "t" "to_address"] f.toAddress
  startDateFrom : ∀ t ∈ f.startDateFrom, Since (row "t" "start_date") t
  startDateTo : ∀ t ∈ f.startDateTo, Until (row "t" "start_date") t
  endDateFrom : ∀ t ∈ f.endDateFrom, Since (row "t" "end_date") t
  endDateTo : ∀ t ∈ f.endDateTo, Until (row "t" "end_date") t
  createdFrom : ∀ t ∈ f.createdFrom, Since (row "t" "created_at") t
  createdTo : ∀ t ∈ f.createdTo, Until (row "t" "created_at") t
  distanceMin : ∀ x ∈ f.distanceMin, NotBelow (row "t" "distance_km") x
  distanceMax : ∀ x ∈ f.distanceMax, NotAbove (row "t" "distance_km") x
  ids : ∀ ns ∈ f.ids, ∃ n ∈ ns, row "t" "id" = some (.int n)
  excludeIds : ∀ ns ∈ f.excludeIds, ¬∃ n ∈ ns, row "t" "id" = some (.int n)
  driverIds : ∀ ns ∈ f.driverIds, ∃ n ∈ ns, row "t" "driver_id" = some (.int n)
  excludeDriverIds : ∀ ns ∈ f.excludeDriverIds, ¬∃ n ∈ ns, row "t" "driver_id" = some (.int n)
  vehicleIds : ∀ ns ∈ f.vehicleIds, ∃ n ∈ ns, row "t" "vehicle_id" = some (.int n)
  excludeVehicleIds : ∀ ns ∈ f.excludeVehicleIds, ¬∃ n ∈ ns, row "t" "vehicle_id" = some (.int n)
  statuses : ∀ ss ∈ f.statuses, ∃ s ∈ ss, row "t" "status" = some (.text s.text)
  radius : Within given (row "t" "from_location") f.lat f.lng f.radiusKm
  search : Mentions given [row "t" "from_address", row "t" "to_address", row "t" "from_country",
    row "t" "to_country", row "d" "name", row "v" "plate_number"] f.search

/-- The sample of a row passes a filter, restricted to offers when a list is given. A sample
without a trip counts as one whose trip is not deleted. -/
structure Telemetry.Filter.Passes (given : Given) (row : Row) (f : Telemetry.Filter)
    (offerIds : Option (List Int64)) : Prop where
  live : row "t" "deleted" = none ∨ row "t" "deleted" = some (.bool false)
  offers : ∀ ns ∈ offerIds, ∃ n ∈ ns, row "g" "offer_id" = some (.int n)
  id : ∀ n ∈ f.id, row "g" "id" = some (.int n)
  tripId : ∀ n ∈ f.tripId, row "g" "trip_id" = some (.int n)
  companyId : ∀ n ∈ f.companyId, row "g" "company_id" = some (.int n)
  offerId : ∀ n ∈ f.offerId, row "g" "offer_id" = some (.int n)
  driverId : ∀ n ∈ f.driverId, row "g" "driver_id" = some (.int n)
  vehicleId : ∀ n ∈ f.vehicleId, row "g" "vehicle_id" = some (.int n)
  status : ∀ s ∈ f.status, row "g" "status" = some (.text s)
  loggedFrom : ∀ t ∈ f.loggedFrom, Since (row "g" "logged_at") t
  loggedTo : ∀ t ∈ f.loggedTo, Until (row "g" "logged_at") t
  createdFrom : ∀ t ∈ f.createdFrom, Since (row "g" "created_at") t
  createdTo : ∀ t ∈ f.createdTo, Until (row "g" "created_at") t
  speedMin : ∀ x ∈ f.speedMin, NotBelow (row "g" "speed") x
  speedMax : ∀ x ∈ f.speedMax, NotAbove (row "g" "speed") x
  batteryMin : ∀ x ∈ f.batteryMin, NotBelow (row "g" "battery_level") x
  batteryMax : ∀ x ∈ f.batteryMax, NotAbove (row "g" "battery_level") x
  tripIds : ∀ ns ∈ f.tripIds, ∃ n ∈ ns, row "g" "trip_id" = some (.int n)
  companyIds : ∀ ns ∈ f.companyIds, ∃ n ∈ ns, row "g" "company_id" = some (.int n)
  offerIdList : ∀ ns ∈ f.offerIds, ∃ n ∈ ns, row "g" "offer_id" = some (.int n)
  driverIds : ∀ ns ∈ f.driverIds, ∃ n ∈ ns, row "g" "driver_id" = some (.int n)
  excludeDriverIds : ∀ ns ∈ f.excludeDriverIds, ¬∃ n ∈ ns, row "g" "driver_id" = some (.int n)
  vehicleIds : ∀ ns ∈ f.vehicleIds, ∃ n ∈ ns, row "g" "vehicle_id" = some (.int n)
  excludeVehicleIds : ∀ ns ∈ f.excludeVehicleIds, ¬∃ n ∈ ns, row "g" "vehicle_id" = some (.int n)
  radius : Within given (row "g" "coordinates") f.lat f.lng f.radiusKm
  search : Mentions given [row "g" "status", row "d" "name", row "v" "plate_number"] f.search

/-- The sample of a row belongs to the samples of a position selector. -/
structure Telemetry.Selector.Passes (row : Row) (s : Telemetry.Selector)
    (offerIds : Option (List Int64)) : Prop where
  live : row "t" "deleted" = none ∨ row "t" "deleted" = some (.bool false)
  offers : ∀ ns ∈ offerIds, ∃ n ∈ ns, row "g" "offer_id" = some (.int n)
  loggedAfter : ∀ t ∈ s.loggedAfter, Since (row "g" "logged_at") t
  tripIds : ∀ ns ∈ s.tripIds, ∃ n ∈ ns, row "g" "trip_id" = some (.int n)
  companyIds : ∀ ns ∈ s.companyIds, ∃ n ∈ ns, row "g" "company_id" = some (.int n)
  offerIdList : ∀ ns ∈ s.offerIds, ∃ n ∈ ns, row "g" "offer_id" = some (.int n)
  driverIds : ∀ ns ∈ s.driverIds, ∃ n ∈ ns, row "g" "driver_id" = some (.int n)
  vehicleIds : ∀ ns ∈ s.vehicleIds, ∃ n ∈ ns, row "g" "vehicle_id" = some (.int n)

section Trips

private def linkedTokens (n : Nat) : List Token :=
  [.column ⟨"t", "id"⟩, .word .among, .opening, .word .select, .column ⟨"l", "trip_id"⟩,
    .word .fromTable, .name "trip_offers", .name "l", .word .whereCondition,
    .column ⟨"l", "offer_id"⟩, .word .equals, .word .any, .opening, .param n, .closing, .closing]

private theorem linkedTokens_eq (n : Nat) :
    tokens ("t.id IN (SELECT l.trip_id FROM trip_offers l WHERE l.offer_id = ANY(".toList ++
      (placeholder n ++ "))".toList)) = linkedTokens n := by
  have hclosing : tokens (placeholder n ++ "))".toList) = [.param n, .closing, .closing] :=
    tokens_placeholder_closing n ")".toList
  rw [linkedTokens, ← hclosing]
  rfl

private theorem tripOffers_mean (ns : List Int64) :
    (Part.numbered "t.id IN (SELECT l.trip_id FROM trip_offers l WHERE l.offer_id = ANY($?))"
      [.ints ns]).Means fun given row => Trip.LinkedTo given (row "t" "id") ns := by
  have hfront : '$' ∉
      "t.id IN (SELECT l.trip_id FROM trip_offers l WHERE l.offer_id = ANY(".toList := by
    decide +kernel
  have hback : '$' ∉ "))".toList := by decide
  have hreads (n : Nat) : Reads (linkedTokens n)
      (.among (.column ⟨"t", "id"⟩) ⟨"l", "trip_id"⟩ "trip_offers" "l"
        (.anyOf (.column ⟨"l", "offer_id"⟩) (.param n))) :=
    ⟨.tokens (linkedTokens n) 0, rfl, fun _ _ => rfl⟩
  refine means_of_marker hfront hback _ _ linkedTokens_eq hreads
    fun n given args row hbound => ?_
  have hoffer (link : String → Option Value) :
      (Condition.anyOf (.column ⟨"l", "offer_id"⟩) (.param n)).truth given args
        (row.beside "l" link) = .yes ↔ ∃ o ∈ ns, link "offer_id" = some (.int o) :=
    (anyOf_truth hbound).trans (oneOf_exact exact_int rfl given (row.beside "l" link))
  have htrip (link : String → Option Value) : row.beside "l" link "l" "trip_id" = link "trip_id" :=
    if_pos rfl
  rw [Condition.truth, Truth.any_eq_yes]
  simp only [List.mem_map, List.mem_filter, decide_eq_true_eq, strict_eq_yes, Operand.value]
  constructor
  · rintro ⟨_, ⟨⟨link, hlink, rfl⟩, hmatch⟩, hsame⟩
    rw [htrip] at hsame
    exact ⟨link, hlink, (hoffer link).mp hmatch, hsame⟩
  · rintro ⟨link, hlink, hmatch, hsame⟩
    refine ⟨row.beside "l" link, ⟨⟨link, hlink, rfl⟩, (hoffer link).mpr hmatch⟩, ?_⟩
    rw [htrip]
    exact hsame

theorem Trip.Filter.calls_mean (f : Trip.Filter) (offerIds : Option (List Int64)) :
    CallsMean (f.calls offerIds) fun given row => f.Passes given row offerIds := by
  have hid : Names "t.id" ⟨"t", "id"⟩ := rfl
  have hdriver : Names "t.driver_id" ⟨"t", "driver_id"⟩ := rfl
  have hvehicle : Names "t.vehicle_id" ⟨"t", "vehicle_id"⟩ := rfl
  have hstatus : Names "t.status" ⟨"t", "status"⟩ := rfl
  have hfromCountry : Names "t.from_country" ⟨"t", "from_country"⟩ := rfl
  have htoCountry : Names "t.to_country" ⟨"t", "to_country"⟩ := rfl
  have hfromAddress : Names "t.from_address" ⟨"t", "from_address"⟩ := rfl
  have htoAddress : Names "t.to_address" ⟨"t", "to_address"⟩ := rfl
  have hstart : Names "t.start_date" ⟨"t", "start_date"⟩ := rfl
  have hend : Names "t.end_date" ⟨"t", "end_date"⟩ := rfl
  have hcreated : Names "t.created_at" ⟨"t", "created_at"⟩ := rfl
  have hdistance : Names "t.distance_km" ⟨"t", "distance_km"⟩ := rfl
  have hlocation : Names "t.from_location" ⟨"t", "from_location"⟩ := rfl
  have hdriverName : Names "d.name" ⟨"d", "name"⟩ := rfl
  have hplate : Names "v.plate_number" ⟨"v", "plate_number"⟩ := rfl
  refine ⟨_, .cons (unset_means (c := ⟨"t", "deleted"⟩) rfl) <|
    .cons (Call.offerIds_means tripOffers_mean offerIds) <|
    .cons (equal_value hid exact_int f.id) <|
    .cons (equal_value hdriver exact_int f.driverId) <|
    .cons (equal_value hvehicle exact_int f.vehicleId) <|
    .cons (equal_value hstatus (fun s => exact_text s.text) f.status) <|
    .cons (equal_value hfromCountry exact_text f.fromCountry) <|
    .cons (equal_value htoCountry exact_text f.toCountry) <|
    .cons (contains_mentions (.cons hfromAddress .nil) (List.cons_ne_nil _ _) f.fromAddress) <|
    .cons (contains_mentions (.cons htoAddress .nil) (List.cons_ne_nil _ _) f.toAddress) <|
    .cons (range_times hstart f.startDateFrom f.startDateTo) <|
    .cons (range_times hend f.endDateFrom f.endDateTo) <|
    .cons (range_times hcreated f.createdFrom f.createdTo) <|
    .cons (range_floats hdistance f.distanceMin f.distanceMax) <|
    .cons (within_ints hid f.ids) <|
    .cons (notWithin_ints hid f.excludeIds) <|
    .cons (within_ints hdriver f.driverIds) <|
    .cons (notWithin_ints hdriver f.excludeDriverIds) <|
    .cons (within_ints hvehicle f.vehicleIds) <|
    .cons (notWithin_ints hvehicle f.excludeVehicleIds) <|
    .cons (within_texts hstatus Status.text f.statuses) <|
    .cons (radius_within hlocation f.lat f.lng f.radiusKm) <|
    .cons (search_mentions (.cons hfromAddress <| .cons htoAddress <| .cons hfromCountry <|
      .cons htoCountry <| .cons hdriverName <| .cons hplate .nil) (List.cons_ne_nil _ _) f.search)
    .nil, fun given row => ?_⟩
  simp only [List.forall_mem_cons]
  constructor
  · rintro ⟨live, offers, id, driverId, vehicleId, status, fromCountry, toCountry, fromAddress,
      toAddress, startDate, endDate, created, distance, ids, excludeIds, driverIds,
      excludeDriverIds, vehicleIds, excludeVehicleIds, statuses, radius, search, -⟩
    exact ⟨live, offers, id, driverId, vehicleId, status, fromCountry, toCountry, fromAddress,
      toAddress, startDate.1, startDate.2, endDate.1, endDate.2, created.1, created.2, distance.1,
      distance.2, ids, excludeIds, driverIds, excludeDriverIds, vehicleIds, excludeVehicleIds,
      statuses, radius, search⟩
  · intro h
    exact ⟨h.live, h.offers, h.id, h.driverId, h.vehicleId, h.status, h.fromCountry, h.toCountry,
      h.fromAddress, h.toAddress, ⟨h.startDateFrom, h.startDateTo⟩, ⟨h.endDateFrom, h.endDateTo⟩,
      ⟨h.createdFrom, h.createdTo⟩, ⟨h.distanceMin, h.distanceMax⟩, h.ids, h.excludeIds,
      h.driverIds, h.excludeDriverIds, h.vehicleIds, h.excludeVehicleIds, h.statuses, h.radius,
      h.search, fun _ hmem => nomatch hmem⟩

end Trips

section Samples

private theorem liveSample_means : Telemetry.liveTrip.Means fun _ row =>
    row "t" "deleted" = none ∨ row "t" "deleted" = some (.bool false) := by
  refine Call.guard_means fun n text htext => ?_
  cases htext
  refine ⟨.compare (.coalesce (.column ⟨"t", "deleted"⟩) .falsity) .equals .falsity,
    ⟨.tokens [.word .coalesce, .opening, .column ⟨"t", "deleted"⟩, .comma, .word .falsity, .closing,
      .word .equals, .word .falsity] 0, rfl, fun _ _ => rfl⟩, fun given args row _ => ?_⟩
  rw [Condition.truth, strict_eq_yes]
  simp only [Operand.value]
  cases row "t" "deleted" with
  | none => exact iff_of_true ⟨.bool false, .bool false, rfl, rfl, rfl⟩ (.inl rfl)
  | some v =>
    constructor
    · rintro ⟨a, b, hcell, hb, hsame⟩
      cases hb
      rw [← (exact_bool false a).mp hsame]
      exact .inr hcell
    · intro hcell
      rcases hcell with hnone | hcell
      · cases hnone
      · exact ⟨.bool false, .bool false, hcell, rfl, rfl⟩

private theorem ofOffers_means (offerIds : Option (List Int64)) :
    (Telemetry.ofOffers offerIds).Means fun _ row =>
      ∀ ns ∈ offerIds, ∃ n ∈ ns, row "g" "offer_id" = some (.int n) := by
  have hoffer : Names "g.offer_id" ⟨"g", "offer_id"⟩ := rfl
  have hfragment : withinFragment "g.offer_id" = "g.offer_id = ANY($?)" := rfl
  refine Call.offerIds_means (fun ns => ?_) offerIds
  rw [← hfragment]
  intro n text htext
  obtain ⟨c, hreads, htruth⟩ := within_means hoffer (.ints ns) n text htext
  refine ⟨c, hreads, fun given args row hbound => (htruth given args row hbound).trans ?_⟩
  exact oneOf_exact exact_int rfl given row

theorem Telemetry.Filter.calls_mean (f : Telemetry.Filter) (offerIds : Option (List Int64)) :
    CallsMean (f.calls offerIds) fun given row => f.Passes given row offerIds := by
  have hid : Names "g.id" ⟨"g", "id"⟩ := rfl
  have htrip : Names "g.trip_id" ⟨"g", "trip_id"⟩ := rfl
  have hcompany : Names "g.company_id" ⟨"g", "company_id"⟩ := rfl
  have hoffer : Names "g.offer_id" ⟨"g", "offer_id"⟩ := rfl
  have hdriver : Names "g.driver_id" ⟨"g", "driver_id"⟩ := rfl
  have hvehicle : Names "g.vehicle_id" ⟨"g", "vehicle_id"⟩ := rfl
  have hstatus : Names "g.status" ⟨"g", "status"⟩ := rfl
  have hlogged : Names "g.logged_at" ⟨"g", "logged_at"⟩ := rfl
  have hcreated : Names "g.created_at" ⟨"g", "created_at"⟩ := rfl
  have hspeed : Names "g.speed" ⟨"g", "speed"⟩ := rfl
  have hbattery : Names "g.battery_level" ⟨"g", "battery_level"⟩ := rfl
  have hcoordinates : Names "g.coordinates" ⟨"g", "coordinates"⟩ := rfl
  have hdriverName : Names "d.name" ⟨"d", "name"⟩ := rfl
  have hplate : Names "v.plate_number" ⟨"v", "plate_number"⟩ := rfl
  refine ⟨_, .cons liveSample_means <| .cons (ofOffers_means offerIds) <|
    .cons (equal_value hid exact_int f.id) <|
    .cons (equal_value htrip exact_int f.tripId) <|
    .cons (equal_value hcompany exact_int f.companyId) <|
    .cons (equal_value hoffer exact_int f.offerId) <|
    .cons (equal_value hdriver exact_int f.driverId) <|
    .cons (equal_value hvehicle exact_int f.vehicleId) <|
    .cons (equal_value hstatus exact_text f.status) <|
    .cons (range_times hlogged f.loggedFrom f.loggedTo) <|
    .cons (range_times hcreated f.createdFrom f.createdTo) <|
    .cons (range_floats hspeed f.speedMin f.speedMax) <|
    .cons (range_floats hbattery f.batteryMin f.batteryMax) <|
    .cons (within_ints htrip f.tripIds) <|
    .cons (within_ints hcompany f.companyIds) <|
    .cons (within_ints hoffer f.offerIds) <|
    .cons (within_ints hdriver f.driverIds) <|
    .cons (notWithin_ints hdriver f.excludeDriverIds) <|
    .cons (within_ints hvehicle f.vehicleIds) <|
    .cons (notWithin_ints hvehicle f.excludeVehicleIds) <|
    .cons (radius_within hcoordinates f.lat f.lng f.radiusKm) <|
    .cons (search_mentions (.cons hstatus <| .cons hdriverName <| .cons hplate .nil)
      (List.cons_ne_nil _ _) f.search)
    .nil, fun given row => ?_⟩
  simp only [List.forall_mem_cons]
  constructor
  · rintro ⟨live, offers, id, tripId, companyId, offerId, driverId, vehicleId, status, logged,
      created, speed, battery, tripIds, companyIds, offerIdList, driverIds, excludeDriverIds,
      vehicleIds, excludeVehicleIds, radius, search, -⟩
    exact ⟨live, offers, id, tripId, companyId, offerId, driverId, vehicleId, status, logged.1,
      logged.2, created.1, created.2, speed.1, speed.2, battery.1, battery.2, tripIds, companyIds,
      offerIdList, driverIds, excludeDriverIds, vehicleIds, excludeVehicleIds, radius, search⟩
  · intro h
    exact ⟨h.live, h.offers, h.id, h.tripId, h.companyId, h.offerId, h.driverId, h.vehicleId,
      h.status, ⟨h.loggedFrom, h.loggedTo⟩, ⟨h.createdFrom, h.createdTo⟩,
      ⟨h.speedMin, h.speedMax⟩, ⟨h.batteryMin, h.batteryMax⟩, h.tripIds, h.companyIds,
      h.offerIdList, h.driverIds, h.excludeDriverIds, h.vehicleIds, h.excludeVehicleIds, h.radius,
      h.search, fun _ hmem => nomatch hmem⟩

theorem Telemetry.Selector.calls_mean (s : Telemetry.Selector)
    (offerIds : Option (List Int64)) :
    CallsMean (s.calls offerIds) fun _ row => s.Passes row offerIds := by
  have htrip : Names "g.trip_id" ⟨"g", "trip_id"⟩ := rfl
  have hcompany : Names "g.company_id" ⟨"g", "company_id"⟩ := rfl
  have hoffer : Names "g.offer_id" ⟨"g", "offer_id"⟩ := rfl
  have hdriver : Names "g.driver_id" ⟨"g", "driver_id"⟩ := rfl
  have hvehicle : Names "g.vehicle_id" ⟨"g", "vehicle_id"⟩ := rfl
  have hlogged : Names "g.logged_at" ⟨"g", "logged_at"⟩ := rfl
  refine ⟨_, .cons liveSample_means <| .cons (ofOffers_means offerIds) <|
    .cons (range_times hlogged s.loggedAfter none) <|
    .cons (within_ints htrip s.tripIds) <|
    .cons (within_ints hcompany s.companyIds) <|
    .cons (within_ints hoffer s.offerIds) <|
    .cons (within_ints hdriver s.driverIds) <|
    .cons (within_ints hvehicle s.vehicleIds)
    .nil, fun given row => ?_⟩
  simp only [List.forall_mem_cons]
  constructor
  · rintro ⟨live, offers, logged, tripIds, companyIds, offerIdList, driverIds, vehicleIds, -⟩
    exact ⟨live, offers, logged.1, tripIds, companyIds, offerIdList, driverIds, vehicleIds⟩
  · intro h
    exact ⟨h.live, h.offers, ⟨h.loggedAfter, fun _ hmem => nomatch hmem⟩, h.tripIds, h.companyIds,
      h.offerIdList, h.driverIds, h.vehicleIds, fun _ hmem => nomatch hmem⟩

end Samples

/-- The clause of every filter of trips and telemetry and of every position selector is completed,
and it keeps exactly the rows that pass. -/
theorem clauses_keep_what_passes :
    (∀ (f : Trip.Filter) (offerIds : Option (List Int64)), ∃ c, f.compile offerIds = .ok c ∧
      c.Keeps fun given row => f.Passes given row offerIds) ∧
    (∀ (f : Telemetry.Filter) (offerIds : Option (List Int64)), ∃ c, f.compile offerIds = .ok c ∧
      c.Keeps fun given row => f.Passes given row offerIds) ∧
    (∀ (s : Telemetry.Selector) (offerIds : Option (List Int64)), ∃ c,
      s.compile offerIds = .ok c ∧ c.Keeps fun _ row => s.Passes row offerIds) := by
  refine ⟨fun f offerIds => ?_, fun f offerIds => ?_, fun s offerIds => ?_⟩
  · exact compile_keeps (f.orderly offerIds) (f.calls_mean offerIds)
  · exact compile_keeps (f.orderly offerIds) (f.calls_mean offerIds)
  · exact compile_keeps (s.orderly offerIds) (s.calls_mean offerIds)

end FleetTrail
