import FleetTrail.Json.Parser
import FleetTrail.Json.Text
import FleetTrail.Telemetry.Sample
import FleetTrail.Text.Quoted
import FleetTrail.Time.Device

/-!
# Payloads of devices

A message holds either an envelope of samples with the id of the batch, or one bare sample. An
object with a field `samples` is always an envelope, so a bad sample in it shows its own fault.
Numbers may come as texts; blank texts and `null` count as absent. The fields of an object are
visited in the order of their names, and the first bad one is reported.
-/

namespace FleetTrail.Telemetry

/-- What a place in a payload may hold. -/
inductive Expected where
  | string
  | sequence
  | sample
  deriving DecidableEq, Repr

def Expected.text : Expected → String
  | .string => "a string"
  | .sequence => "a sequence"
  | .sample => "struct TelemetryPayload"

/-- Why a payload does not decode. -/
inductive PayloadFault where
  /-- The bytes are no JSON value, or more than one. -/
  | syntaxError
  | invalidType (found : Json.Value) (expected : Expected)
  | duplicateField (name : String)
  /-- A sample written as a list ends before its field number `length`. -/
  | missingItems (length : Nat)
  | extraItems (length : Nat)
  /-- A numeric field that holds neither a number nor a text. -/
  | notNumeric
  /-- An id that is a number but not a whole one of 64 bits. -/
  | notWhole (x : Float)
  | badWhole (fault : Number.WholeError)
  | badFloat

/-- A JSON value in messages. -/
def describe : Json.Value → String
  | .null => "null"
  | .bool b => "boolean \x60" ++ (if b then "true" else "false") ++ "\x60"
  | .int n => "integer \x60" ++ Number.intText n ++ "\x60"
  | .float x => "floating point \x60" ++ Json.floatText x ++ "\x60"
  | .text s => "string " ++ Text.quoted s
  | .list _ => "sequence"
  | .record _ => "map"

/-- The wording of each cause. The place and the wording of a syntax error are left open. -/
def PayloadFault.message : PayloadFault → String
  | .syntaxError => "<json syntax>"
  | .invalidType found expected =>
    "invalid type: " ++ describe found ++ ", expected " ++ expected.text
  | .duplicateField name => "duplicate field \x60" ++ name ++ "\x60"
  | .missingItems length =>
    "invalid length " ++ Number.natText length ++
      ", expected struct TelemetryPayload with 13 elements"
  | .extraItems length =>
    "invalid length " ++ Number.natText length ++ ", expected fewer elements in array"
  | .notNumeric => "data did not match any variant of untagged enum StringOrNumber"
  | .notWhole x => "expected an integer id, got " ++ Number.floatText x
  | .badWhole fault => fault.message
  | .badFloat => "invalid float literal"

/-- A sample as a device sends it. -/
structure Payload where
  companyId : Option Int64 := none
  vehicleId : Option Int64 := none
  driverId : Option Int64 := none
  offerId : Option Int64 := none
  tripId : Option Int64 := none
  batteryLevel : Option Float := none
  speed : Option Float := none
  heading : Option Float := none
  accuracy : Option Float := none
  lat : Option Float := none
  lng : Option Float := none
  status : Option String := none
  loggedAt : Option String := none

/-- A numeric field: absent, a whole number of 64 bits, another number, or a trimmed text. -/
inductive Numeric where
  | absent
  | whole (n : Int64)
  | real (x : Float)
  | written (cs : List Char)

def numeric (v : Json.Value) : Except PayloadFault Numeric :=
  match v with
  | .null => .ok .absent
  | .text s => if Text.allBlank s then .ok .absent else .ok (.written (Text.trim s.toList))
  | .int n =>
    match v.int64? with
    | some n => .ok (.whole n)
    | none => .ok (.real (Float.ofInt n))
  | .float x => .ok (.real x)
  | _ => .error .notNumeric

def readId (v : Json.Value) : Except PayloadFault (Option Int64) := do
  match ← numeric v with
  | .absent => return none
  | .whole n => return some n
  | .real x => throw (.notWhole x)
  | .written cs =>
    match Number.readInt64 cs with
    | .ok n => return some n
    | .error fault => throw (.badWhole fault)

/-- Reads a field with a measured number. -/
def readLevel (v : Json.Value) : Except PayloadFault (Option Float) := do
  match ← numeric v with
  | .absent => return none
  | .whole n => return some (Float.ofInt n.toInt)
  | .real x => return some x
  | .written cs =>
    match Number.readFloat cs with
    | some x => return some x
    | none => throw .badFloat

def readText (v : Json.Value) : Except PayloadFault (Option String) :=
  match v with
  | .null => .ok none
  | .text s => .ok (some s)
  | v => .error (.invalidType v .string)

/-- The fields of a sample that an object has given so far, where a coordinate has two names. -/
structure Visited where
  payload : Payload := {}
  latGiven : Bool := false
  lngGiven : Bool := false

def visitLat (seen : Visited) (v : Json.Value) : Except PayloadFault Visited := do
  if seen.latGiven then throw (.duplicateField "lat")
  return { seen with payload := { seen.payload with lat := ← readLevel v }, latGiven := true }

def visitLng (seen : Visited) (v : Json.Value) : Except PayloadFault Visited := do
  if seen.lngGiven then throw (.duplicateField "lng")
  return { seen with payload := { seen.payload with lng := ← readLevel v }, lngGiven := true }

def visit (seen : Visited) (field : String × Json.Value) :
    Except PayloadFault Visited := do
  let (name, v) := field
  let p := seen.payload
  match name with
  | "companyId" => return { seen with payload := { p with companyId := ← readId v } }
  | "vehicleId" => return { seen with payload := { p with vehicleId := ← readId v } }
  | "driverId" => return { seen with payload := { p with driverId := ← readId v } }
  | "offerId" => return { seen with payload := { p with offerId := ← readId v } }
  | "tripId" => return { seen with payload := { p with tripId := ← readId v } }
  | "batteryLevel" => return { seen with payload := { p with batteryLevel := ← readLevel v } }
  | "speed" => return { seen with payload := { p with speed := ← readLevel v } }
  | "heading" => return { seen with payload := { p with heading := ← readLevel v } }
  | "accuracy" => return { seen with payload := { p with accuracy := ← readLevel v } }
  | "lat" | "latitude" => visitLat seen v
  | "lng" | "longitude" => visitLng seen v
  | "status" => return { seen with payload := { p with status := ← readText v } }
  | "loggedAt" => return { seen with payload := { p with loggedAt := ← readText v } }
  | _ => return seen

/-- Reads a sample from the list of its fields. Only the two texts at the end must be listed;
the numbers before them are absent when the list is too short for them. -/
def ofItems (items : List Json.Value) : Except PayloadFault Payload := do
  let item (i : Nat) : Json.Value := items.getD i .null
  let companyId ← readId (item 0)
  let vehicleId ← readId (item 1)
  let driverId ← readId (item 2)
  let offerId ← readId (item 3)
  let tripId ← readId (item 4)
  let batteryLevel ← readLevel (item 5)
  let speed ← readLevel (item 6)
  let heading ← readLevel (item 7)
  let accuracy ← readLevel (item 8)
  let lat ← readLevel (item 9)
  let lng ← readLevel (item 10)
  if items.length ≤ 11 then throw (.missingItems 11)
  let status ← readText (item 11)
  if items.length ≤ 12 then throw (.missingItems 12)
  let loggedAt ← readText (item 12)
  if 13 < items.length then throw (.extraItems items.length)
  return { companyId, vehicleId, driverId, offerId, tripId, batteryLevel, speed, heading,
           accuracy, lat, lng, status, loggedAt }

def Payload.ofJson (v : Json.Value) : Except PayloadFault Payload :=
  match v with
  | .record fields => do return (← fields.foldlM visit {}).payload
  | .list items => ofItems items
  | v => .error (.invalidType v .sample)

inductive Message where
  | batch (uuid : Option String) (samples : List Payload)
  | single (sample : Payload)

/-- Reads the samples of an envelope. -/
def readSamples (v : Json.Value) : Except PayloadFault (List Payload) :=
  match v with
  | .list items => items.mapM Payload.ofJson
  | v => .error (.invalidType v .sequence)

def Message.ofJson (v : Json.Value) : Except PayloadFault Message := do
  match v.field? "samples" with
  | some samples =>
    let samples ← readSamples samples
    let uuid ← readText ((v.field? "uuid").getD .null)
    return .batch uuid samples
  | none => return .single (← Payload.ofJson v)

/-- Reads a message from bytes. The message is read before what follows it is looked at, so a
fault in it comes first. -/
def Message.ofBytes (bytes : ByteArray) : Except PayloadFault Message := do
  match Json.Value.frontOfBytes? bytes with
  | none => throw .syntaxError
  | some (v, whole) =>
    let message ← Message.ofJson v
    if whole then return message else throw .syntaxError

/-- The id that a message gives its batch. -/
def Message.uuid? : Message → Option String
  | .batch uuid _ => uuid
  | .single _ => none

def Message.payloads : Message → List Payload
  | .batch _ samples => samples
  | .single sample => [sample]

/-- Why a well-formed sample cannot be ingested. -/
inductive SampleFault where
  | missingVehicle
  | missingDriver
  | badLoggedAt (raw : String)
  deriving DecidableEq, Repr

def SampleFault.message : SampleFault → String
  | .missingVehicle => "missing vehicleId"
  | .missingDriver => "missing driverId"
  | .badLoggedAt raw => "invalid loggedAt: '" ++ raw ++ "'"

/-- The time on a sample; an absent or empty text is none. -/
def readLoggedAt : Option String → Except SampleFault (Option Time.Instant)
  | none => .ok none
  | some raw =>
    if raw = "" then .ok none
    else
      match Time.Instant.ofDevice? raw.toList with
      | some t => .ok (some t)
      | none => .error (.badLoggedAt raw)

/-- The reading that a sample stands for. Missing coordinates count as zero. -/
def Payload.reading (p : Payload) : Except SampleFault Reading := do
  let some vehicleId := p.vehicleId | throw .missingVehicle
  let some driverId := p.driverId | throw .missingDriver
  let loggedAt ← readLoggedAt p.loggedAt
  return {
    companyId := p.companyId
    vehicleId
    driverId
    offerId := p.offerId
    tripId := p.tripId
    batteryLevel := p.batteryLevel
    speed := p.speed
    heading := p.heading
    accuracy := p.accuracy
    coordinates := ⟨p.lat.getD 0.0, p.lng.getD 0.0⟩
    status := p.status
    loggedAt }

end FleetTrail.Telemetry
