import FleetTrail.Json.Record

/-!
# Trip status

A trip is active until it is completed.
-/

namespace FleetTrail.Trip

inductive Status where
  | active
  | completed
  deriving DecidableEq, Repr

namespace Status

/-- The word for a status in the store and in JSON. -/
def text : Status → String
  | .active => "active"
  | .completed => "completed"

/-- Reads a status, letter by letter. -/
def ofText? : String → Option Status
  | "active" => some .active
  | "completed" => some .completed
  | _ => none

def ofJson? (v : Json.Value) : Option Status := v.word?.bind ofText?

/-- Reads the status of a trip that is embedded in another record. -/
def ofEmbeddedJson? (v : Json.Value) : Option Status := v.embeddedWord?.bind ofText?

end Status

end FleetTrail.Trip
