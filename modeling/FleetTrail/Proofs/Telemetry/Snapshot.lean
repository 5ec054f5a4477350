import FleetTrail.Proofs.Geo.RoundTrip
import FleetTrail.Proofs.Json.Bytes
import FleetTrail.Proofs.Telemetry.Fields

/-!
# The record of a trip read back

What is read from the snapshot of a trip: its samples in their order, each as it was, except that
a reading which is infinite or NaN is gone. A sample whose point is not finite makes the whole
snapshot unreadable.
-/

namespace FleetTrail.Json

theorem Value.ofFloat_eq (x : Float) :
    Value.ofFloat x = if x.isFinite = true then .float x else .null := by
  have hfinite : x.isFinite = (Number.parts x).unpacked.isFinite := by
    rw [← Number.unpack_eq]
    rfl
  rw [hfinite, Value.ofFloat]
  cases Number.parts x with
  | nan => rfl
  | infinite negative => rfl
  | finite negative mantissa exponent =>
    by_cases h : mantissa = 0 <;>
      simp [Number.Parts.unpacked, h, Float.Model.UnpackedFloat.isFinite]

theorem int64?_ofInt64 (n : Int64) : (Value.ofInt64 n).int64? = some n :=
  Telemetry.int64?_int_eq_some_iff.mpr rfl

namespace Fields

variable {α : Type} {r : Fields} {name : String} {read : Value → Option α}

theorem lookup_of_mem {fs : List (String × Value)} (hnames : (fs.map Prod.fst).Nodup) {v : Value}
    (h : (name, v) ∈ fs) : fs.lookup name = some v := by
  induction fs with
  | nil => cases h
  | cons f fs ih =>
    obtain ⟨key, w⟩ := f
    obtain ⟨hfirst, hnames⟩ := List.nodup_cons.mp hnames
    obtain heq | hrest := List.mem_cons.mp h
    · cases heq
      simp
    · have hne : name ≠ key := by
        rintro rfl
        exact hfirst (List.mem_map.mpr ⟨_, hrest, rfl⟩)
      simp [List.lookup_cons, beq_eq_false_iff_ne.mpr hne, ih hnames hrest]

theorem full?_ofFields (names : List String) {fs : List (String × Value)}
    (hnames : (fs.map Prod.fst).Nodup) : ∃ r, full? names (.ofFields fs) = some r ∧
      ∀ f ∈ fs, r.get f.1 = some f.2 := by
  refine ⟨⟨fun name => (Value.ofFields fs).field? name⟩, rfl, ?_⟩
  intro f hf
  change (Value.ofFields fs).field? f.1 = some f.2
  rw [field?_ofFields]
  apply lookup_of_mem
  · rw [List.map_reverse, List.nodup_reverse]
    exact hnames
  · exact List.mem_reverse.mpr hf

theorem required_of_get {v : Value} (h : r.get name = some v) : r.required name read = read v := by
  simp [required, h]

theorem optional_null (h : r.get name = some .null) : r.optional name read = some none := by
  rw [optional, h]

theorem optional_of_get {v : Value} (h : r.get name = some v) (hv : v ≠ .null) :
    r.optional name read = (read v).map some := by
  cases v with
  | null => exact absurd rfl hv
  | bool | int | float | text | list | record => rw [optional, h]

theorem optional_int64 {x : Option Int64} (h : r.get name = some (.ofOption .ofInt64 x)) :
    r.optional name Value.int64? = some x := by
  cases x with
  | none => exact optional_null h
  | some n =>
    rw [optional_of_get h nofun, Value.ofOption, int64?_ofInt64]
    rfl

/-- An optional double is read as it was written when it is finite, and else as absent. -/
theorem optional_float {x : Option Float} (h : r.get name = some (.ofOption .ofFloat x)) :
    r.optional name Value.float? = some (x.filter (·.isFinite)) := by
  cases x with
  | none => exact optional_null h
  | some x =>
    rw [Value.ofOption, Value.ofFloat_eq] at h
    by_cases hx : x.isFinite = true
    · rw [if_pos hx] at h
      rw [optional_of_get h nofun, Option.filter_some, if_pos hx]
      rfl
    · rw [if_neg hx] at h
      rw [optional_null h, Option.filter_some, if_neg hx]

theorem required_float {x : Float} (h : r.get name = some (.ofFloat x)) :
    r.required name Value.float? = if x.isFinite = true then some x else none := by
  rw [required_of_get h, Value.ofFloat_eq]
  split <;> rfl

end Fields

end FleetTrail.Json

namespace FleetTrail

open Json

namespace Geo.Point

def Finite (p : Point) : Prop := p.lat.isFinite = true ∧ p.lng.isFinite = true

instance (p : Point) : Decidable p.Finite := inferInstanceAs (Decidable (_ ∧ _))

theorem ofJson?_toJson (p : Point) : ofJson? p.toJson = if p.Finite then some p else none := by
  have hnodup : ([("lat", .ofFloat p.lat), ("lng", .ofFloat p.lng)].map
      (Prod.fst : String × Value → String)).Nodup := by simp
  obtain ⟨r, hr, hget⟩ := Fields.full?_ofFields ["lat", "lng"] hnodup
  simp only [List.forall_mem_cons] at hget
  obtain ⟨lat, lng, -⟩ := hget
  rw [ofJson?, toJson, hr]
  simp only [Option.bind_eq_bind, Option.bind_some, Fields.required_float lat,
    Fields.required_float lng, Finite]
  by_cases hlat : p.lat.isFinite = true <;> by_cases hlng : p.lng.isFinite = true <;>
    simp [hlat, hlng]

theorem finite_origin : origin.Finite := by decide +kernel

theorem finite_of_ofText {text : String} {p : Point} (h : ofText text = .ok p) : p.Finite := by
  have hglobe := onGlobe_of_ofText h
  exact ⟨hglobe.1, hglobe.2.1⟩

end Geo.Point

namespace Time.Instant

/-- The text of an instant is read as that instant. -/
def Legible (t : Instant) : Prop := ofRelaxed? t.text.toList = some t

instance (t : Instant) : Decidable t.Legible := inferInstanceAs (Decidable (_ = _))

end Time.Instant

namespace Telemetry.Sample

variable (s : Sample)

def fields : List (String × Value) :=
  [("id", .ofInt64 s.id),
    ("companyId", .ofOption .ofInt64 s.companyId),
    ("vehicleId", .ofInt64 s.vehicleId),
    ("driverId", .ofInt64 s.driverId),
    ("offerId", .ofOption .ofInt64 s.offerId),
    ("tripId", .ofOption .ofInt64 s.tripId),
    ("batteryLevel", .ofOption .ofFloat s.batteryLevel),
    ("speed", .ofOption .ofFloat s.speed),
    ("heading", .ofOption .ofFloat s.heading),
    ("accuracy", .ofOption .ofFloat s.accuracy),
    ("coordinates", s.coordinates.toJson),
    ("status", .text s.status),
    ("loggedAt", .text s.loggedAt.text),
    ("createdAt", .text s.createdAt.text)]

theorem toJson_eq : s.toJson = .ofFields s.fields := rfl

theorem nodup_fields : (s.fields.map Prod.fst).Nodup := by
  change ["id", "companyId", "vehicleId", "driverId", "offerId", "tripId", "batteryLevel", "speed",
    "heading", "accuracy", "coordinates", "status", "loggedAt", "createdAt"].Nodup
  decide

/-- The times of a sample are read as they were written. -/
def Legible : Prop := s.loggedAt.Legible ∧ s.createdAt.Legible

/-- A sample without those readings that are infinite or NaN. -/
def withFiniteReadings : Sample :=
  { s with
    batteryLevel := s.batteryLevel.filter (·.isFinite)
    speed := s.speed.filter (·.isFinite)
    heading := s.heading.filter (·.isFinite)
    accuracy := s.accuracy.filter (·.isFinite) }

/-- A sample whose point is finite is read as it was written, but for readings that are not. -/
theorem ofJson?_toJson {s : Sample} (h : s.Legible) :
    ofJson? s.toJson = if s.coordinates.Finite then some s.withFiniteReadings else none := by
  obtain ⟨r, hr, hget⟩ := Fields.full?_ofFields
    ["id", "companyId", "vehicleId", "driverId", "offerId", "tripId", "batteryLevel", "speed",
      "heading", "accuracy", "coordinates", "status", "loggedAt", "createdAt"] s.nodup_fields
  simp only [fields, List.forall_mem_cons] at hget
  obtain ⟨id, companyId, vehicleId, driverId, offerId, tripId, batteryLevel, speed, heading,
    accuracy, coordinates, status, loggedAt, createdAt, -⟩ := hget
  have hstatus : (Value.text s.status).text? = some s.status := rfl
  have hlogged : (Value.text s.loggedAt.text).instant? = some s.loggedAt := h.1
  have hcreated : (Value.text s.createdAt.text).instant? = some s.createdAt := h.2
  rw [ofJson?, toJson_eq, hr, Option.bind_eq_bind, Option.bind_some]
  simp only [Fields.required_of_get id, Fields.required_of_get vehicleId,
    Fields.required_of_get driverId, Fields.required_of_get coordinates,
    Fields.required_of_get status, Fields.required_of_get loggedAt,
    Fields.required_of_get createdAt, Fields.optional_int64 companyId,
    Fields.optional_int64 offerId, Fields.optional_int64 tripId,
    Fields.optional_float batteryLevel, Fields.optional_float speed, Fields.optional_float heading,
    Fields.optional_float accuracy, int64?_ofInt64, Geo.Point.ofJson?_toJson, hstatus, hlogged,
    hcreated]
  by_cases hfinite : s.coordinates.Finite
  · rw [if_pos hfinite, if_pos hfinite]
    rfl
  · rw [if_neg hfinite, if_neg hfinite]
    rfl

structure Finite : Prop where
  point : s.coordinates.Finite
  readings : ∀ x ∈ [s.batteryLevel, s.speed, s.heading, s.accuracy], x.all (·.isFinite) = true

theorem withFiniteReadings_eq_self_iff : s.withFiniteReadings = s ↔
    ∀ x ∈ [s.batteryLevel, s.speed, s.heading, s.accuracy], x.all (·.isFinite) = true := by
  have hfilter (x : Option Float) : x.filter (·.isFinite) = x ↔ x.all (·.isFinite) = true := by
    cases x <;> simp
  cases s
  simp [withFiniteReadings, hfilter]

end Telemetry.Sample

namespace Telemetry

open Json.Value (list?)

theorem list?_snapshot {samples : List Sample} (h : ∀ s ∈ samples, s.Legible) :
    list? Sample.ofJson? (snapshot samples) =
      if ∀ s ∈ samples, s.coordinates.Finite then some (samples.map Sample.withFiniteReadings)
      else none := by
  change (samples.map Sample.toJson).mapM Sample.ofJson? = _
  induction samples with
  | nil => simp
  | cons s samples ih =>
    obtain ⟨hs, hsamples⟩ := List.forall_mem_cons.mp h
    rw [List.map_cons, List.mapM_cons, Sample.ofJson?_toJson hs, ih hsamples]
    simp only [List.forall_mem_cons]
    by_cases hfinite : s.coordinates.Finite
    · simp only [hfinite, true_and, if_true]
      split <;> rfl
    · simp only [hfinite, false_and, if_false]
      rfl

theorem finite_of_sample {row : SampleRow} {s : Sample} (h : row.sample = .ok s) :
    s.coordinates.Finite := by
  obtain ⟨location, hlocation, ⟨⟩⟩ := bind_eq_ok_iff.mp h
  cases hraw : row.coordinates with
  | none =>
    rw [hraw] at hlocation
    cases hlocation
    exact Geo.Point.finite_origin
  | some raw =>
    rw [hraw] at hlocation
    obtain ⟨q, hq, rfl⟩ := Geo.Point.ofOptionalText_some_eq_ok_iff.mp hlocation
    exact Geo.Point.finite_of_ofText hq

/-- A snapshot is read as the samples it was made from exactly when all of their floats are finite.
When their points are, as those of rows that decode, it is read all the same, and only readings that
are not finite are gone. -/
theorem snapshot_faithful_iff_finite (samples : List Sample) (h : ∀ s ∈ samples, s.Legible) :
    (list? Sample.ofJson? (snapshot samples) = some samples ↔ ∀ s ∈ samples, s.Finite) ∧
    ((∀ s ∈ samples, s.coordinates.Finite) →
      list? Sample.ofJson? (snapshot samples) = some (samples.map Sample.withFiniteReadings)) ∧
    ∀ (row : SampleRow) (s : Sample), row.sample = .ok s → s.coordinates.Finite := by
  have hread := list?_snapshot h
  refine ⟨?_, ?_, fun row s => finite_of_sample⟩
  · rw [hread]
    constructor
    · intro hsame
      split at hsame
      next hpoints =>
        have hreadings : samples.map Sample.withFiniteReadings = samples.map id := by
          rw [Option.some.inj hsame, List.map_id]
        rw [List.map_inj_left] at hreadings
        intro s hs
        exact ⟨hpoints s hs, s.withFiniteReadings_eq_self_iff.mp (hreadings s hs)⟩
      next => cases hsame
    · intro hfinite
      rw [if_pos fun s hs => (hfinite s hs).point]
      have hreadings : samples.map Sample.withFiniteReadings = samples.map id :=
        List.map_congr_left fun s hs => s.withFiniteReadings_eq_self_iff.mpr (hfinite s hs).readings
      rw [hreadings, List.map_id]
  · intro hpoints
    rw [hread, if_pos hpoints]

def charged (level : Option Float) : Sample where
  id := 12
  companyId := none
  vehicleId := 8
  driverId := 42
  offerId := some 5
  tripId := some 7
  batteryLevel := level
  speed := some 54.25
  heading := none
  accuracy := some 4.5
  coordinates := ⟨20.5, -100.25⟩
  status := "active"
  loggedAt := ⟨1764396975, 250000000⟩
  createdAt := ⟨1764396976, 0⟩

theorem charged_legible (level : Option Float) : (charged level).Legible := by
  have hlogged : (⟨1764396975, 250000000⟩ : Time.Instant).Legible := by decide +kernel
  have hcreated : (⟨1764396976, 0⟩ : Time.Instant).Legible := by decide +kernel
  exact ⟨hlogged, hcreated⟩

/-- Of two samples, the one whose battery level is no number loses it; alone, the other one is read
as it was. -/
theorem snapshot_loses_level :
    (∀ s ∈ [charged (some 88.0), charged (some (0.0 / 0.0))], s.Legible) ∧
    list? Sample.ofJson? (snapshot [charged (some 88.0), charged (some (0.0 / 0.0))]) =
      some [charged (some 88.0), charged none] ∧
    list? Sample.ofJson? (snapshot [charged (some 88.0)]) = some [charged (some 88.0)] := by
  have hpoint : (⟨20.5, -100.25⟩ : Geo.Point).Finite := by decide +kernel
  have hnumber : (88.0 : Float).isFinite = true := by decide +kernel
  have hlost : (0.0 / 0.0 : Float).isFinite = false := by decide +kernel
  have hspeed : (54.25 : Float).isFinite = true := by decide +kernel
  have haccuracy : (4.5 : Float).isFinite = true := by decide +kernel
  have hboth : ∀ s ∈ [charged (some 88.0), charged (some (0.0 / 0.0))], s.Legible := by
    simp [charged_legible]
  have hone : ∀ s ∈ [charged (some 88.0)], s.Legible := by simp [charged_legible]
  refine ⟨hboth, ?_, ?_⟩
  · rw [(snapshot_faithful_iff_finite _ hboth).2.1 (by simp [charged, hpoint])]
    simp [charged, Sample.withFiniteReadings, hnumber, hlost, hspeed, haccuracy]
  · apply (snapshot_faithful_iff_finite _ hone).1.mpr
    intro s hs
    rw [List.mem_singleton.mp hs]
    exact ⟨hpoint, by simp [charged, hnumber, hspeed, haccuracy]⟩

end Telemetry

end FleetTrail
