import FleetTrail.Service.Transaction
import FleetTrail.Store.Sql
import FleetTrail.Telemetry.Sample
import FleetTrail.Trip.Opening

/-!
# Starting and ending trips

Each is one unit of work. A trip starts from its primary offer and is linked to every offer it
fulfils. It ends when its driver says so, and its telemetry is frozen with it.
-/

namespace FleetTrail.Service

open Store Trip

/-- The status of a link that is given none. -/
def defaultLinkStatus : String := "active"

/-- The fields that the primary offer lends to a trip. -/
def loadPrimary (offer : Int64) : Work Offer.Defaults := do
  let wrap := Failure.transaction .loadPrimaryOffer
  let reply ← ask wrap Sql.selectOfferDefaults [.int (some offer)]
  match reply.rows with
  | [] => throw (.offerNotFound offer)
  | row :: _ => decode wrap (Offer.Defaults.ofRow row)

/-- The values of a new trip in the order of its columns. -/
def tripArgs (d : Draft) : List Bound :=
  [.int d.driverId, .int d.vehicleId, .text d.fromAddress, .text d.toAddress,
    .text d.fromCountry, .text d.toCountry, .ofInstant d.startDate, .text d.fromLocation,
    .text d.toLocation, .float (some d.distanceKm), .json d.metaFields]

def insertTrip (d : Draft) : Work Int64 := do
  let wrap := Failure.transaction .insertTrip
  let reply ← ask wrap Sql.insertTrip (tripArgs d)
  match reply.rows with
  | [] => throw (wrap .rowNotFound)
  | row :: _ => decode wrap row.id

def insertLink (trip : Int64) (link : OfferChoice) : Work Unit := do
  let _ ← ask (.transaction .insertTripOfferLink) Sql.insertTripOffer
    [.int (some trip), .int (some link.offerId), .bool link.isMain,
      .text (some (link.status.getD defaultLinkStatus))]

/-- The body of starting a trip: the defaults, the trip, its links. -/
def openTrip (o : Opening) (links : Links) : Work Int64 := do
  let primary ← loadPrimary links.primary.offerId
  let draft ← check (o.draft primary)
  let trip ← insertTrip draft
  links.toList.forM (insertLink trip)
  return trip

def startTrip (o : Opening) : Work Int64 := do
  let links ← check (Links.ofChoices o.offers)
  let trip ← transaction (openTrip o links)
  Work.log .info ("Started trip " ++ Number.intText trip.toInt ++ " with " ++
    Number.natText links.toList.length ++ " offer(s), primary offer " ++
    Number.intText links.primary.offerId.toInt)
  return trip

/-- Owner and status of a locked trip. -/
def readLock (row : Row) : Except StoreError (Option Int64 × String) := do
  let owner ← row.optional "driver_id" Cell.int?
  let status ← row.valueAs "1" "status" Cell.text?
  return (owner, status)

/-- Locks a trip and gives its status when `driver` owns it. A missing trip and a foreign one
look the same. -/
def lockOwned (trip driver : Int64) : Work String := do
  let wrap := Failure.transaction .lockTrip
  let reply ← ask wrap Sql.selectTripForUpdate [.int (some trip)]
  match reply.rows with
  | [] => throw .notFoundOrForbidden
  | row :: _ =>
    match ← decode wrap (readLock row) with
    | (some owner, status) => if owner = driver then return status else throw .notFoundOrForbidden
    | (none, _) => throw .notFoundOrForbidden

/-- The sample of one row of a trip's telemetry. -/
def readTripSample (row : Row) : Except Failure Telemetry.Sample := do
  let row ← (Telemetry.SampleRow.ofRow row).mapError (Failure.transaction .loadTripTelemetry)
  row.sample.mapError Failure.decode

/-- The telemetry of a trip in the order of the store. -/
def loadTelemetry (trip : Int64) : Work (List Telemetry.Sample) := do
  let reply ← ask (.transaction .loadTripTelemetry) Sql.selectTripTelemetry [.int (some trip)]
  check (reply.rows.mapM readTripSample)

/-- Refuses a status other than active. -/
def checkActive (trip : Int64) (status : String) : Except Failure Unit := do
  match ← Status.ofText status with
  | .active => return ()
  | .completed => throw (.conflict (.alreadyCompleted trip))

/-- The body of ending a trip: lock and authorise, take the snapshot, complete. Gives the number
of samples in the snapshot. -/
def closeTrip (trip driver : Int64) : Work Nat := do
  let status ← lockOwned trip driver
  check (checkActive trip status)
  let samples ← loadTelemetry trip
  let reply ← ask (.transaction .completeTrip) Sql.completeTrip
    [.int (some trip), .json (Telemetry.snapshot samples)]
  if reply.affected ≠ 1 then throw (.conflict (.changedConcurrently trip))
  return samples.length

def noteRefusal (trip driver : Int64) (company : Option Int64) : Failure → Work Unit
  | .notFoundOrForbidden =>
    Work.log .warn ("End of trip " ++ Number.intText trip.toInt ++ " refused for driver " ++
      Number.intText driver.toInt ++ " (company " ++ idText company ++ ")")
  | _ => return ()

/-- Ends a trip that `driver` owns. The company is only noted. -/
def endTrip (trip driver : Int64) (company : Option Int64) : Work Unit := do
  let samples ← tryCatch (transaction (closeTrip trip driver)) fun failure => do
    noteRefusal trip driver company failure
    throw failure
  Work.log .info ("Ended trip " ++ Number.intText trip.toInt ++ " for driver " ++
    Number.intText driver.toInt ++ " with " ++ Number.natText samples ++
    " telemetry sample(s) in snapshot")

end FleetTrail.Service
