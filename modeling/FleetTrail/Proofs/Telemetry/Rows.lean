import FleetTrail.Proofs.Geo.RoundTrip
import FleetTrail.Proofs.Result
import FleetTrail.Service.Trips

/-!
# Samples in rows

A row of telemetry is read exactly when each cell holds a value of its column's kind and its
coordinates, unless they are NULL, are the text of a point. What is read is what the cells hold.
-/

namespace FleetTrail

namespace Store

def Cell.ofOption {α : Type} (make : α → Cell) : Option α → Cell
  | none => .null
  | some a => make a

/-- A reader takes the cells of one kind and no others. -/
structure Cell.Reads {α : Type} (read : Cell → Option α) (make : α → Cell) : Prop where
  null : read .null = none
  some_iff : ∀ cell a, read cell = some a ↔ cell = make a

namespace Cell

theorem reads_int : Reads int? int := ⟨rfl, fun cell n => by cases cell <;> simp [int?]⟩

theorem reads_float : Reads float? float := ⟨rfl, fun cell x => by cases cell <;> simp [float?]⟩

theorem reads_text : Reads text? text := ⟨rfl, fun cell s => by cases cell <;> simp [text?]⟩

theorem reads_time : Reads time? time := ⟨rfl, fun cell t => by cases cell <;> simp [time?]⟩

end Cell

namespace Row

variable {α : Type} {read : Cell → Option α} {make : α → Cell} {row : Row} {column : String}

theorem valueAs_eq_ok_iff (h : Cell.Reads read make) {index : String} {a : α} :
    row.valueAs index column read = .ok a ↔ row.cell column = make a := by
  rw [← h.some_iff, valueAs]
  cases read (row.cell column) <;> simp

theorem valueAs_eq_error_iff {index : String} {e : StoreError} :
    row.valueAs index column read = .error e ↔
      read (row.cell column) = none ∧ e = .columnDecode index := by
  rw [valueAs]
  cases read (row.cell column) <;> simp [eq_comm]

theorem value_eq_ok_iff (h : Cell.Reads read make) {a : α} :
    row.value column read = .ok a ↔ row.cell column = make a := valueAs_eq_ok_iff h

theorem optional_eq_ok_iff (h : Cell.Reads read make) {v : Option α} :
    row.optional column read = .ok v ↔ row.cell column = .ofOption make v := by
  have hnull (a : α) : Cell.null ≠ make a := by
    rw [ne_eq, ← h.some_iff, h.null]
    nofun
  rw [optional]
  split
  next hcell => cases v <;> simp [hcell, Cell.ofOption, hnull]
  next hcell =>
    cases v with
    | none => cases read (row.cell column) <;> simpa [Cell.ofOption] using hcell
    | some a =>
      rw [Cell.ofOption, ← h.some_iff]
      cases read (row.cell column) <;> simp

theorem optional_eq_error_iff {e : StoreError} :
    row.optional column read = .error e ↔ row.cell column ≠ .null ∧
      read (row.cell column) = none ∧ e = .columnDecode (Text.quoted column) := by
  rw [optional]
  split
  next hcell => simp [hcell]
  next hcell =>
    cases read (row.cell column) with
    | none => simpa [eq_comm] using fun _ => hcell
    | some a => simp

end Row

end Store

open Store Geo

namespace Telemetry

/-- The cells of a row hold a sample. NULL stands for the null point. -/
@[mk_iff]
structure Sample.StandsIn (sample : Sample) (row : Row) : Prop where
  id : row.cell "id" = .int sample.id
  companyId : row.cell "company_id" = .ofOption .int sample.companyId
  vehicleId : row.cell "vehicle_id" = .int sample.vehicleId
  driverId : row.cell "driver_id" = .int sample.driverId
  offerId : row.cell "offer_id" = .ofOption .int sample.offerId
  tripId : row.cell "trip_id" = .ofOption .int sample.tripId
  batteryLevel : row.cell "battery_level" = .ofOption .float sample.batteryLevel
  speed : row.cell "speed" = .ofOption .float sample.speed
  heading : row.cell "heading" = .ofOption .float sample.heading
  accuracy : row.cell "accuracy" = .ofOption .float sample.accuracy
  coordinates : row.cell "coordinates" = .null ∧ sample.coordinates = Point.origin ∨
    ∃ text, row.cell "coordinates" = .text text ∧ Point.ofText text = .ok sample.coordinates
  status : row.cell "status" = .text sample.status
  loggedAt : row.cell "logged_at" = .time sample.loggedAt
  createdAt : row.cell "created_at" = .time sample.createdAt

/-- Rows hold samples, one in each and in their order. -/
def Held (rows : List Row) (samples : List Sample) : Prop :=
  List.Forall₂ (fun row sample => sample.StandsIn row) rows samples

end Telemetry

namespace Service

open Telemetry

theorem point_eq_ok_iff {cell : Cell} {p : Point} :
    (∃ raw, cell = .ofOption .text raw ∧
        ∃ location, Point.ofOptionalText raw = .ok location ∧ location.getD Point.origin = p) ↔
      cell = .null ∧ p = Point.origin ∨ ∃ text, cell = .text text ∧ Point.ofText text = .ok p := by
  constructor
  · intro h
    obtain ⟨raw, hcell, location, hlocation, hp⟩ := h
    cases raw with
    | none =>
      cases hlocation
      exact .inl ⟨hcell, hp.symm⟩
    | some text =>
      obtain ⟨q, hq, rfl⟩ := Point.ofOptionalText_some_eq_ok_iff.mp hlocation
      exact .inr ⟨text, hcell, hp ▸ hq⟩
  · intro h
    obtain ⟨hcell, rfl⟩ | ⟨text, hcell, hp⟩ := h
    · exact ⟨none, hcell, none, rfl, rfl⟩
    · exact ⟨some text, hcell, some p, Point.ofOptionalText_some_eq_ok_iff.mpr ⟨p, hp, rfl⟩, rfl⟩

theorem readTripSample_eq_ok_iff {row : Row} {sample : Sample} :
    readTripSample row = .ok sample ↔ sample.StandsIn row := by
  rw [Sample.standsIn_iff, ← point_eq_ok_iff]
  simp only [readTripSample, SampleRow.ofRow, SampleRow.sample, bind_eq_ok_iff, mapError_eq_ok_iff,
    pure_eq_ok_iff, Row.value_eq_ok_iff Cell.reads_int, Row.optional_eq_ok_iff Cell.reads_int,
    Row.optional_eq_ok_iff Cell.reads_float, Row.optional_eq_ok_iff Cell.reads_text,
    Row.value_eq_ok_iff Cell.reads_text, Row.value_eq_ok_iff Cell.reads_time]
  cases sample
  -- Each value is fixed by its cell; only the text of the point is left to be chosen.
  aesop

theorem readTripSamples_eq_ok_iff {rows : List Row} {samples : List Sample} :
    rows.mapM readTripSample = .ok samples ↔ Held rows samples := by
  simp only [mapM_eq_ok_iff, readTripSample_eq_ok_iff, Held]

theorem readTripSamples_eq_error_iff {rows : List Row} {failure : Failure} :
    rows.mapM readTripSample = .error failure ↔ ∃ before samples row after,
      rows = before ++ row :: after ∧ Held before samples ∧
        readTripSample row = .error failure := by
  simp only [mapM_eq_error_iff, readTripSample_eq_ok_iff, Held]

end Service

end FleetTrail
