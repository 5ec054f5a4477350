import FleetTrail.Service.Transaction
import FleetTrail.Store.Sql
import FleetTrail.Telemetry.Batch

/-!
# Ingesting telemetry

A batch of readings is stored in one transaction or not at all. A payload from a device is
decoded and ingested as one batch: bad data is noted and dropped, and only failures of the
store are passed on.
-/

namespace FleetTrail.Service

open Store Telemetry

/-- The values of a reading in the order of its columns. -/
def readingArgs (r : Reading) : List Bound :=
  [.int r.companyId, .int (some r.vehicleId), .int (some r.driverId), .int r.offerId,
    .int r.tripId, .float r.batteryLevel, .float r.speed, .float r.heading, .float r.accuracy,
    .text r.coordinates.token?, .text (some r.statusOrDefault), .ofInstant r.loggedAt]

/-- Inserts the reading at `index`. The insertion depends on its trip being live, so no affected
row means that the trip is not. -/
def insertReading (index : Nat) (r : Reading) : Work Unit := do
  let reply ← ask (.transaction .insertTelemetrySample) Sql.insertTelemetry (readingArgs r)
  if reply.affected = 0 then throw (.validation (.missingTrip index r.tripId))

/-- Inserts readings in their order, of which the first has the number `index`. -/
def insertReadings : Nat → List Reading → Work Unit
  | _, [] => return ()
  | index, r :: rest => do
    insertReading index r
    insertReadings (index + 1) rest

/-- Stores a batch and gives its size. An empty batch never reaches the store. -/
def ingest (readings : List Reading) : Work Nat := do
  if readings.isEmpty then
    Work.log .debug "Empty telemetry batch, nothing to ingest"
    return 0
  transaction (insertReadings 0 readings)
  Work.log .info ("Ingested " ++ Number.natText readings.length ++ " telemetry sample(s)")
  return readings.length

/-- A batch that the store failed to take. -/
structure DeliveryFailure where
  batch : BatchId
  failure : Failure

/-- The causes behind a store error, outermost first. -/
private def storeCauses (e : StoreError) : List String :=
  match e with
  | .refused text => [e.message, text]
  | .columnDecode _ => [e.message, "unexpected null; try decoding as an \x60Option\x60"]
  | e => [e.message]

/-- The causes behind a failure, outermost first. -/
private def failureCauses : Failure → List String
  | .transaction _ source => storeCauses source
  | .database source => storeCauses source
  | _ => []

/-- The wording of a failed delivery, with every cause behind it. -/
def DeliveryFailure.message (d : DeliveryFailure) : String :=
  String.intercalate ": "
    (("telemetry batch " ++ d.batch.text) :: d.failure.message :: failureCauses d.failure)

/-- Ingests one payload and gives the number of stored readings. -/
def deliver (payload : ByteArray) : Session (Except DeliveryFailure Nat) := do
  match Batch.ofBytes payload with
  | .error fault =>
    Session.log .warn ("Skipping telemetry message: " ++ fault.message)
    return .ok 0
  | .ok batch =>
    Session.log .debug ("Processing telemetry batch " ++ batch.id.text ++ " with " ++
      Number.natText batch.readings.length ++ " sample(s)")
    match ← (ingest batch.readings).run with
    | .ok n => return .ok n
    | .error (.validation reason) =>
      Session.log .warn
        ("Rejected telemetry batch " ++ batch.id.text ++ ": " ++ reason.message)
      return .ok 0
    | .error failure => return .error ⟨batch.id, failure⟩

end FleetTrail.Service
