import FleetTrail.Proofs.Telemetry.Rows
import FleetTrail.Proofs.Telemetry.Snapshot
import FleetTrail.Proofs.Time.Text

/-!
# Samples in the record of a trip

A sample stands in the record of its trip as an object with all of its fields under their names.
-/

namespace FleetTrail.Telemetry

open Json

/-- A reading is written as it is, and as null when it is absent, infinite or NaN. -/
inductive LevelRecorded : Option Float → Value → Prop
  | absent : LevelRecorded none .null
  | finite {x : Float} (h : x.isFinite = true) : LevelRecorded (some x) (.float x)
  | special {x : Float} (h : x.isFinite = false) : LevelRecorded (some x) .null

/-- The fields stand in the order of their names. -/
inductive Sample.RecordedAs (s : Sample) : Value → Prop
  | fields {accuracy battery heading speed : Value} {created logged : String}
      (accuracy_recorded : LevelRecorded s.accuracy accuracy)
      (battery_recorded : LevelRecorded s.batteryLevel battery)
      (heading_recorded : LevelRecorded s.heading heading)
      (speed_recorded : LevelRecorded s.speed speed)
      (created_written : s.createdAt.WrittenAs created)
      (logged_written : s.loggedAt.WrittenAs logged) :
      s.RecordedAs (.record
        [("accuracy", accuracy),
          ("batteryLevel", battery),
          ("companyId", s.companyId.elim .null fun n => .int n.toInt),
          ("coordinates",
            .record [("lat", .float s.coordinates.lat), ("lng", .float s.coordinates.lng)]),
          ("createdAt", .text created),
          ("driverId", .int s.driverId.toInt),
          ("heading", heading),
          ("id", .int s.id.toInt),
          ("loggedAt", .text logged),
          ("offerId", s.offerId.elim .null fun n => .int n.toInt),
          ("speed", speed),
          ("status", .text s.status),
          ("tripId", s.tripId.elim .null fun n => .int n.toInt),
          ("vehicleId", .int s.vehicleId.toInt)])

theorem levelRecorded_iff {level : Option Float} {v : Value} :
    LevelRecorded level v ↔ v = .ofOption .ofFloat level := by
  cases level with
  | none =>
    constructor
    · rintro ⟨⟩
      rfl
    · rintro rfl
      exact .absent
  | some x =>
    rw [Value.ofOption, Value.ofFloat_eq]
    constructor
    · intro h
      cases h with
      | finite h => rw [if_pos h]
      | special h => rw [if_neg (by simp [h])]
    · rintro rfl
      split
      next h => exact .finite h
      next h => exact .special (by simpa using h)

namespace Sample

variable {s : Sample} {v : Value} {row : Store.Row}

private theorem toJson_record (s : Sample) (hpoint : s.coordinates.Finite) : s.toJson = .record
    [("accuracy", .ofOption .ofFloat s.accuracy),
      ("batteryLevel", .ofOption .ofFloat s.batteryLevel),
      ("companyId", .ofOption .ofInt64 s.companyId),
      ("coordinates",
        .record [("lat", .float s.coordinates.lat), ("lng", .float s.coordinates.lng)]),
      ("createdAt", .text s.createdAt.text),
      ("driverId", .ofInt64 s.driverId),
      ("heading", .ofOption .ofFloat s.heading),
      ("id", .ofInt64 s.id),
      ("loggedAt", .text s.loggedAt.text),
      ("offerId", .ofOption .ofInt64 s.offerId),
      ("speed", .ofOption .ofFloat s.speed),
      ("status", .text s.status),
      ("tripId", .ofOption .ofInt64 s.tripId),
      ("vehicleId", .ofInt64 s.vehicleId)] := by
  simp only [toJson_eq, fields, Geo.Point.toJson, Value.ofFloat_eq, hpoint.1, hpoint.2, if_true,
    Value.ofFields, List.foldl_cons, List.foldl_nil, putField, String.reduceLT, String.reduceEq,
    if_false]

theorem recordedAs_iff (hpoint : s.coordinates.Finite) : s.RecordedAs v ↔ v = s.toJson := by
  have hid (n : Option Int64) : n.elim .null (fun n => .int n.toInt) = Value.ofOption .ofInt64 n := by
    cases n <;> rfl
  rw [toJson_record s hpoint]
  simp only [← hid]
  constructor
  · intro h
    cases h with
    | fields haccuracy hbattery hheading hspeed hcreated hlogged =>
      rw [levelRecorded_iff] at haccuracy hbattery hheading hspeed
      rw [Time.Instant.writtenAs_iff] at hcreated hlogged
      rw [haccuracy, hbattery, hheading, hspeed, hcreated, hlogged]
      rfl
  · rintro rfl
    exact .fields (levelRecorded_iff.mpr rfl) (levelRecorded_iff.mpr rfl) (levelRecorded_iff.mpr rfl)
      (levelRecorded_iff.mpr rfl) (Time.Instant.writtenAs_iff.mpr rfl)
      (Time.Instant.writtenAs_iff.mpr rfl)

theorem StandsIn.finite (h : s.StandsIn row) : s.coordinates.Finite := by
  obtain ⟨-, hpoint⟩ | ⟨text, -, htext⟩ := h.coordinates
  · rw [hpoint]
    exact Geo.Point.finite_origin
  · exact Geo.Point.finite_of_ofText htext

end Sample

/-- The record of a trip has one element for each sample, in the order of the samples. -/
def Recorded (samples : List Sample) (record : Value) : Prop :=
  ∃ elements, record = .list elements ∧ List.Forall₂ Sample.RecordedAs samples elements

theorem recorded_iff {rows : List Store.Row} {samples : List Sample} {record : Value}
    (h : Held rows samples) : Recorded samples record ↔ record = snapshot samples := by
  have hfinite : ∀ s ∈ samples, s.coordinates.Finite := by
    intro s hs
    obtain ⟨row, -, hrow⟩ := exists_of_forall₂ h hs
    exact hrow.finite
  have hall (elements : List Value) : List.Forall₂ Sample.RecordedAs samples elements ↔
      samples.map Sample.toJson = elements := by
    rw [forall₂_congr_of_mem fun s hs v => (Sample.recordedAs_iff (hfinite s hs)).trans eq_comm,
      ← List.forall₂_map_left_iff (R := Eq), List.forall₂_eq_eq_eq]
  rw [Recorded, snapshot]
  constructor
  · rintro ⟨elements, rfl, helements⟩
    rw [(hall elements).mp helements]
  · rintro rfl
    exact ⟨_, rfl, (hall _).mpr rfl⟩

end FleetTrail.Telemetry
