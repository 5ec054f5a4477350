import FleetTrail.Json.Value
import FleetTrail.Time.Rfc3339

/-!
# Reading typed values out of JSON

Readers for the leaf types, and the two layouts of a record: an object with the fields by
name, or a list with the fields in the order of their declaration. A sparse record takes the
default for what is missing; a full record must list every field.
-/

namespace FleetTrail.Json

namespace Value

/-- A whole number that fits into 64 bits with sign. -/
def int64? : Value → Option Int64
  | .int n =>
    if Int64.minValue.toInt ≤ n ∧ n ≤ Int64.maxValue.toInt then some (Int64.ofInt n) else none
  | _ => none

def float? : Value → Option Float
  | .int n => some (Float.ofInt n)
  | .float x => some x
  | _ => none

def text? : Value → Option String
  | .text s => some s
  | _ => none

def bool? : Value → Option Bool
  | .bool b => some b
  | _ => none

/-- An instant in relaxed RFC 3339. -/
def instant? : Value → Option Time.Instant
  | .text s => Time.Instant.ofRelaxed? s.toList
  | _ => none

/-- Any value, unless a record in it opens with the name kept for embedded text. Such a record
has other fields too, since text alone was put in its place when it was read. -/
def freeForm? (v : Value) : Option Value := if v.plain then some v else none

/-- A list whose every item `read` accepts. -/
def list? {α : Type} (read : Value → Option α) : Value → Option (List α)
  | .list items => items.mapM read
  | _ => none

/-- The word of an enumeration: a text, or an object with that one field, which is `null`. -/
def word? : Value → Option String
  | .text s => some s
  | .record [(name, .null)] => some name
  | _ => none

/-- The word of an enumeration in a record that is embedded in another one. There an empty
object may stand for the `null` as well. -/
def embeddedWord? : Value → Option String
  | .record [(name, .record [])] => some name
  | v => v.word?

end Value

/-- The fields of a record under decoding: the value under each name, if it is there. -/
structure Fields where
  get : String → Option Value

namespace Fields

def ofObject? : Value → Option Fields
  | .record fields => some ⟨fun name => fields.lookup name⟩
  | _ => none

private def ofItems (names : List String) (items : List Value) : Fields :=
  ⟨fun name => (names.zip items).lookup name⟩

/-- The fields of a sparse record. Missing items at the end of a list are absent fields. -/
def sparse? (names : List String) : Value → Option Fields
  | .list items => if items.length ≤ names.length then some (ofItems names items) else none
  | v => ofObject? v

/-- The fields of a full record. -/
def full? (names : List String) : Value → Option Fields
  | .list items => if items.length = names.length then some (ofItems names items) else none
  | v => ofObject? v

def required {α : Type} (r : Fields) (name : String) (read : Value → Option α) : Option α := do
  read (← r.get name)

/-- A field that may be absent or `null`. -/
def optional {α : Type} (r : Fields) (name : String) (read : Value → Option α) :
    Option (Option α) :=
  match r.get name with
  | none | some .null => some none
  | some v => (read v).map some

/-- A field that may be absent but not `null`. -/
def defaulted {α : Type} (r : Fields) (name : String) (default : α) (read : Value → Option α) :
    Option α :=
  match r.get name with
  | none => some default
  | some v => read v

end Fields

end FleetTrail.Json
