import FleetTrail.Proofs.Telemetry.Samples

/-!
# Decoding batches

A payload decodes exactly when it is one JSON value that converts to a message whose samples are
all complete. What does not convert is unparsable, however its samples would fare; of the samples
that convert, the first incomplete one is reported.
-/

namespace FleetTrail.Telemetry

open Json (Denotes)

/-- What a JSON value says as a message. With a field `samples` it can only be an envelope. -/
inductive Converts : Json.Value → Message → Prop
  | envelope {v : Json.Value} {items : List Json.Value} {samples : List Payload}
      {uuid : Option String} (hfield : v.field? "samples" = some (.list items))
      (hsamples : List.Forall₂ SampleOf items samples)
      (huuid : HoldsText ((v.field? "uuid").getD .null) uuid) : Converts v (.batch uuid samples)
  | bare {v : Json.Value} {sample : Payload} (hfield : v.field? "samples" = none)
      (hsample : SampleOf v sample) : Converts v (.single sample)

section Messages

variable {v : Json.Value} {message : Message}

private theorem ordered_of_field {name : String} {w : Json.Value} (hv : Json.Ordered v)
    (h : v.field? name = some w) : Json.Ordered w := by
  cases hv with
  | record _ hfields =>
    obtain ⟨before, after, rfl, -⟩ := List.lookup_eq_some_iff.mp h
    exact hfields (name, w) (List.mem_append_right before List.mem_cons_self)
  | null | bool | int | float | text | list => cases h

private theorem mapM_ofJson_eq_ok_iff {items : List Json.Value} {samples : List Payload}
    (hitems : ∀ item ∈ items, Json.Ordered item) :
    items.mapM Payload.ofJson = .ok samples ↔ List.Forall₂ SampleOf items samples := by
  rw [mapM_eq_ok_iff]
  apply forall₂_congr_of_mem
  intro item hitem sample
  exact Payload.ofJson_eq_ok_iff (hitems item hitem)

theorem Message.ofJson_eq_ok_iff (hv : Json.Ordered v) :
    Message.ofJson v = .ok message ↔ Converts v message := by
  rw [Message.ofJson]
  cases hfield : v.field? "samples" with
  | none =>
    simp only [bind_eq_ok_iff, pure_eq_ok_iff, Payload.ofJson_eq_ok_iff hv]
    constructor
    · intro h
      obtain ⟨sample, hsample, rfl⟩ := h
      exact .bare hfield hsample
    · intro h
      cases h with
      | envelope hother => simp [hfield] at hother
      | bare _ hsample => exact ⟨_, hsample, rfl⟩
  | some given =>
    have hgiven := ordered_of_field hv hfield
    cases hgiven with
    | list hitems =>
      simp only [bind_eq_ok_iff, pure_eq_ok_iff, readSamples, mapM_ofJson_eq_ok_iff hitems,
        readText_eq_ok_iff]
      constructor
      · intro h
        obtain ⟨samples, hsamples, uuid, huuid, rfl⟩ := h
        exact .envelope hfield hsamples huuid
      · intro h
        cases h with
        | envelope hother hsamples huuid =>
          cases hfield.symm.trans hother
          exact ⟨_, hsamples, _, huuid, rfl⟩
        | bare hother => simp [hfield] at hother
    | null | bool | int | float | text | record =>
      constructor
      · intro h
        cases h
      · intro h
        cases h with
        | envelope hother => simp [hfield] at hother
        | bare hother => simp [hfield] at hother

theorem Message.ofBytes_eq_ok_iff {bytes : ByteArray} :
    Message.ofBytes bytes = .ok message ↔ ∃ v, Denotes bytes v ∧ Converts v message := by
  rw [Message.ofBytes]
  constructor
  · intro h
    split at h
    · cases h
    next v whole hfront =>
      obtain ⟨read, hread, h⟩ := bind_eq_ok_iff.mp h
      cases whole with
      | false => cases h
      | true =>
        cases h
        have hv := Json.frontOfBytes?_eq_some_iff.mp hfront
        exact ⟨v, hv, (Message.ofJson_eq_ok_iff hv.ordered).mp hread⟩
  · intro h
    obtain ⟨v, hv, hconverts⟩ := h
    rw [Json.frontOfBytes?_eq_some_iff.mpr hv]
    simp only [(Message.ofJson_eq_ok_iff hv.ordered).mpr hconverts]
    rfl

end Messages

inductive Logged : Option String → Option Time.Instant → Prop
  | absent : Logged none none
  | empty : Logged (some "") none
  | given {raw : String} {t : Time.Instant} (hraw : raw ≠ "")
      (h : Time.Instant.ofDevice? raw.toList = some t) : Logged (some raw) (some t)

/-- A complete sample and its reading. A coordinate that is missing counts as zero. -/
structure Stands (p : Payload) (r : Reading) : Prop where
  vehicleId : p.vehicleId = some r.vehicleId
  driverId : p.driverId = some r.driverId
  loggedAt : Logged p.loggedAt r.loggedAt
  companyId : r.companyId = p.companyId
  offerId : r.offerId = p.offerId
  tripId : r.tripId = p.tripId
  batteryLevel : r.batteryLevel = p.batteryLevel
  speed : r.speed = p.speed
  heading : r.heading = p.heading
  accuracy : r.accuracy = p.accuracy
  coordinates : r.coordinates = ⟨p.lat.getD 0.0, p.lng.getD 0.0⟩
  status : r.status = p.status

/-- What an incomplete sample is blamed for. -/
inductive Lacks (p : Payload) : SampleFault → Prop
  | vehicle (h : p.vehicleId = none) : Lacks p .missingVehicle
  | driver (hvehicle : p.vehicleId.isSome = true) (h : p.driverId = none) : Lacks p .missingDriver
  | loggedAt {raw : String} (hvehicle : p.vehicleId.isSome = true)
      (hdriver : p.driverId.isSome = true) (h : p.loggedAt = some raw) (hraw : raw ≠ "")
      (hbad : Time.Instant.ofDevice? raw.toList = none) : Lacks p (.badLoggedAt raw)

section Readings

variable {p : Payload} {r : Reading}

private theorem readLoggedAt_eq_ok_iff {raw : Option String} {t : Option Time.Instant} :
    readLoggedAt raw = .ok t ↔ Logged raw t := by
  constructor
  · intro h
    cases raw with
    | none =>
      cases h
      exact .absent
    | some raw =>
      rw [readLoggedAt] at h
      split at h
      next hempty =>
        cases h
        rw [hempty]
        exact .empty
      next hraw =>
        split at h
        next t ht =>
          cases h
          exact .given hraw ht
        next => cases h
  · intro h
    cases h with
    | absent => rfl
    | empty => rfl
    | given hraw h => simp [readLoggedAt, hraw, h]

private theorem readLoggedAt_eq_error_iff {raw : Option String} {fault : SampleFault} :
    readLoggedAt raw = .error fault ↔ ∃ s, raw = some s ∧ s ≠ "" ∧
      Time.Instant.ofDevice? s.toList = none ∧ fault = .badLoggedAt s := by
  constructor
  · intro h
    cases raw with
    | none => cases h
    | some raw =>
      rw [readLoggedAt] at h
      split at h
      next => cases h
      next hraw =>
        split at h
        next => cases h
        next hnone =>
          cases h
          exact ⟨raw, rfl, hraw, hnone, rfl⟩
  · intro h
    obtain ⟨s, rfl, hs, hnone, rfl⟩ := h
    simp [readLoggedAt, hs, hnone]

private theorem reading_no_vehicle (h : p.vehicleId = none) :
    p.reading = .error .missingVehicle := by
  rw [Payload.reading, h]
  rfl

private theorem reading_no_driver {vehicle : Int64} (hvehicle : p.vehicleId = some vehicle)
    (h : p.driverId = none) : p.reading = .error .missingDriver := by
  rw [Payload.reading, hvehicle, h]
  rfl

private theorem reading_identified {vehicle driver : Int64} (hvehicle : p.vehicleId = some vehicle)
    (hdriver : p.driverId = some driver) :
    p.reading = readLoggedAt p.loggedAt >>= fun t => pure {
      companyId := p.companyId
      vehicleId := vehicle
      driverId := driver
      offerId := p.offerId
      tripId := p.tripId
      batteryLevel := p.batteryLevel
      speed := p.speed
      heading := p.heading
      accuracy := p.accuracy
      coordinates := ⟨p.lat.getD 0.0, p.lng.getD 0.0⟩
      status := p.status
      loggedAt := t } := by
  rw [Payload.reading, hvehicle, hdriver]

theorem Payload.reading_eq_ok_iff : p.reading = .ok r ↔ Stands p r := by
  constructor
  · intro h
    cases hvehicle : p.vehicleId with
    | none =>
      rw [reading_no_vehicle hvehicle] at h
      cases h
    | some vehicle =>
      cases hdriver : p.driverId with
      | none =>
        rw [reading_no_driver hvehicle hdriver] at h
        cases h
      | some driver =>
        rw [reading_identified hvehicle hdriver] at h
        obtain ⟨t, ht, h⟩ := bind_eq_ok_iff.mp h
        cases h
        have hlogged := readLoggedAt_eq_ok_iff.mp ht
        constructor <;> first | assumption | rfl
  · intro h
    rw [reading_identified h.vehicleId h.driverId]
    apply bind_eq_ok_iff.mpr
    refine ⟨r.loggedAt, readLoggedAt_eq_ok_iff.mpr h.loggedAt, ?_⟩
    rw [← h.companyId, ← h.offerId, ← h.tripId, ← h.batteryLevel, ← h.speed, ← h.heading,
      ← h.accuracy, ← h.coordinates, ← h.status]
    rfl

theorem Payload.reading_eq_error_iff {fault : SampleFault} :
    p.reading = .error fault ↔ Lacks p fault := by
  constructor
  · intro h
    cases hvehicle : p.vehicleId with
    | none =>
      rw [reading_no_vehicle hvehicle] at h
      cases h
      exact .vehicle hvehicle
    | some vehicle =>
      have hgiven : p.vehicleId.isSome = true := by rw [hvehicle]; rfl
      cases hdriver : p.driverId with
      | none =>
        rw [reading_no_driver hvehicle hdriver] at h
        cases h
        exact .driver hgiven hdriver
      | some driver =>
        have hgiven' : p.driverId.isSome = true := by rw [hdriver]; rfl
        rw [reading_identified hvehicle hdriver] at h
        obtain h | ⟨_, -, h⟩ := bind_eq_error_iff.mp h
        · obtain ⟨raw, hraw, hne, hbad, rfl⟩ := readLoggedAt_eq_error_iff.mp h
          exact .loggedAt hgiven hgiven' hraw hne hbad
        · cases h
  · intro h
    cases h with
    | vehicle h => exact reading_no_vehicle h
    | driver hvehicle h =>
      obtain ⟨vehicle, hvehicle⟩ := Option.isSome_iff_exists.mp hvehicle
      exact reading_no_driver hvehicle h
    | loggedAt hvehicle hdriver h hne hbad =>
      obtain ⟨vehicle, hvehicle⟩ := Option.isSome_iff_exists.mp hvehicle
      obtain ⟨driver, hdriver⟩ := Option.isSome_iff_exists.mp hdriver
      rw [reading_identified hvehicle hdriver]
      apply bind_eq_error_iff.mpr
      exact .inl (readLoggedAt_eq_error_iff.mpr ⟨_, h, hne, hbad, rfl⟩)

private theorem readingsFrom_eq_ok_iff {index : Nat} {payloads : List Payload}
    {readings : List Reading} :
    readingsFrom index payloads = .ok readings ↔ List.Forall₂ Stands payloads readings := by
  induction payloads generalizing index readings with
  | nil => rw [readingsFrom, List.forall₂_nil_left_iff, Except.ok.injEq, eq_comm]
  | cons p rest ih =>
    rw [readingsFrom, List.forall₂_cons_left_iff]
    cases hp : p.reading with
    | error fault =>
      constructor
      · intro h
        cases h
      · intro h
        obtain ⟨r, _, hr, -⟩ := h
        rw [Payload.reading_eq_ok_iff.mpr hr] at hp
        cases hp
    | ok r =>
      simp only [bind_eq_ok_iff, pure_eq_ok_iff, ih]
      constructor
      · intro h
        obtain ⟨later, hlater, rfl⟩ := h
        exact ⟨r, later, Payload.reading_eq_ok_iff.mp hp, hlater, rfl⟩
      · intro h
        obtain ⟨r', later, hr', hlater, rfl⟩ := h
        cases hp.symm.trans (Payload.reading_eq_ok_iff.mpr hr')
        exact ⟨later, hlater, rfl⟩

end Readings

section Batches

variable {bytes : ByteArray} {batch : Batch} {message : Message}

private theorem ofBytes_eq (h : Message.ofBytes bytes = .ok message) :
    Batch.ofBytes bytes = readingsFrom 0 message.payloads >>= fun readings =>
      pure ⟨(message.uuid?.bind BatchId.ofText?).getD .fresh, readings⟩ := by
  rw [Batch.ofBytes, h]
  rfl

private theorem ofBytes_unparsable {fault : PayloadFault} (h : Message.ofBytes bytes = .error fault) :
    Batch.ofBytes bytes = .error (.unparsable fault) := by
  rw [Batch.ofBytes, h]
  rfl

theorem Batch.ofBytes_eq_ok_iff : Batch.ofBytes bytes = .ok batch ↔
    ∃ v message, Denotes bytes v ∧ Converts v message ∧
      List.Forall₂ Stands message.payloads batch.readings ∧
      batch.id = (message.uuid?.bind BatchId.ofText?).getD .fresh := by
  constructor
  · intro h
    cases hmessage : Message.ofBytes bytes with
    | error fault =>
      rw [ofBytes_unparsable hmessage] at h
      cases h
    | ok message =>
      rw [ofBytes_eq hmessage] at h
      obtain ⟨readings, hreadings, h⟩ := bind_eq_ok_iff.mp h
      cases h
      obtain ⟨v, hv, hconverts⟩ := Message.ofBytes_eq_ok_iff.mp hmessage
      exact ⟨v, message, hv, hconverts, readingsFrom_eq_ok_iff.mp hreadings, rfl⟩
  · intro h
    obtain ⟨v, message, hv, hconverts, hreadings, hid⟩ := h
    rw [ofBytes_eq (Message.ofBytes_eq_ok_iff.mpr ⟨v, hv, hconverts⟩), ← hid]
    apply bind_eq_ok_iff.mpr
    exact ⟨_, readingsFrom_eq_ok_iff.mpr hreadings, rfl⟩

end Batches

end FleetTrail.Telemetry
