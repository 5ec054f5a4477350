import FleetTrail.Geo.Point
import FleetTrail.Query.Fault
import FleetTrail.Store.Session
import FleetTrail.Text.Quoted

/-!
# Failures of an operation

Why an operation on trips and telemetry did not succeed, with the wording of each cause.
Absent, deleted and foreign trips share one failure, so that nothing leaks to a caller who does
not own the trip.
-/

namespace FleetTrail

/-- A rule that the input breaks. -/
inductive Violation where
  | noOffers
  | severalMain (count : Nat)
  | unknownStatus (text : String)
  /-- The sample at `index` names a trip that is missing or deleted. -/
  | missingTrip (index : Nat) (trip : Option Int64)
  deriving DecidableEq, Repr

/-- An optional id in messages: `None` or `Some(7)`. -/
def idText (id : Option Int64) : String :=
  Text.optionText (fun n => Number.intText n.toInt) id

def Violation.message : Violation → String
  | .noOffers => "a trip needs at least one offer"
  | .severalMain count =>
    Number.natText count ++ " offers flagged as main, expected at most one"
  | .unknownStatus text => "unknown trip status '" ++ text ++ "'"
  | .missingTrip index trip =>
    "sample " ++ Number.natText index ++ " references missing or deleted trip " ++ idText trip

/-- A state of a trip that rules an operation out. -/
inductive Conflict where
  | alreadyCompleted (trip : Int64)
  | changedConcurrently (trip : Int64)
  deriving DecidableEq, Repr

def Conflict.message : Conflict → String
  | .alreadyCompleted trip => "trip " ++ Number.intText trip.toInt ++ " is already completed"
  | .changedConcurrently trip =>
    "trip " ++ Number.intText trip.toInt ++ " changed state concurrently"

/-- The steps of the transactions, as failures name them. -/
inductive Phase where
  | begin
  | commit
  | loadPrimaryOffer
  | insertTrip
  | insertTripOfferLink
  | lockTrip
  | loadTripTelemetry
  | completeTrip
  | insertTelemetrySample
  deriving DecidableEq, Repr

def Phase.text : Phase → String
  | .begin => "begin"
  | .commit => "commit"
  | .loadPrimaryOffer => "load primary offer"
  | .insertTrip => "insert trip"
  | .insertTripOfferLink => "insert trip offer link"
  | .lockTrip => "lock trip"
  | .loadTripTelemetry => "load trip telemetry"
  | .completeTrip => "complete trip"
  | .insertTelemetrySample => "insert telemetry sample"

inductive Failure where
  | validation (reason : Violation)
  | offerNotFound (offer : Int64)
  | notFoundOrForbidden
  | conflict (reason : Conflict)
  /-- A store error in a step of a transaction. -/
  | transaction (phase : Phase) (source : Store.StoreError)
  /-- A point in the store that does not decode. -/
  | decode (source : Geo.PointError)
  /-- A store error outside of a transaction. -/
  | database (source : Store.StoreError)
  /-- A query that breaks the rules of its builder. -/
  | fault (defect : Query.Fault)

def Failure.message : Failure → String
  | .validation reason => "Invalid input: " ++ reason.message
  | .offerNotFound offer => "Not found: offer " ++ Number.intText offer.toInt
  | .notFoundOrForbidden => "Resource not found or not accessible"
  | .conflict reason => "Conflict: " ++ reason.message
  | .transaction phase source =>
    "Transaction failed during " ++ phase.text ++ ": " ++ source.message
  | .decode source => source.message
  | .database source => "Database error: " ++ source.message
  | .fault defect => defect.message

/-- A session that may fail. -/
abbrev Work (α : Type) := ExceptT Failure Store.Session α

def Work.log (level : Store.Level) (text : String) : Work Unit :=
  ExceptT.lift (Store.Session.log level text)

end FleetTrail
