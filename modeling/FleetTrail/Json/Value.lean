import FleetTrail.Number.Shortest

/-!
# JSON values

The values that payloads, free-form trip fields and telemetry snapshots are made of. A number
without point and exponent is whole when it fits into 64 bits, signed or unsigned; all others
are doubles. The fields of a record stand in ascending order of their names, each name once.
-/

namespace FleetTrail.Json

inductive Value where
  | null
  | bool (b : Bool)
  | int (n : Int)
  | float (x : Float)
  | text (s : String)
  | list (items : List Value)
  | record (fields : List (String × Value))
  deriving Inhabited

/-- Puts a field into its place; a field of the same name gives way. -/
def putField (name : String) (v : Value) : List (String × Value) → List (String × Value)
  | [] => [(name, v)]
  | (other, w) :: rest =>
    if name < other then (name, v) :: (other, w) :: rest
    else if name = other then (name, v) :: rest
    else (other, w) :: putField name v rest

/-- A field that was put is found under its name, and every other one as before. -/
theorem lookup_putField (name other : String) (v : Value) (fields : List (String × Value)) :
    (putField name v fields).lookup other =
      if other = name then some v else fields.lookup other := by
  induction fields with
  | nil =>
    by_cases h : other = name
    · simp [putField, h]
    · simp [putField, List.lookup_cons, beq_eq_false_iff_ne.2 h, h]
  | cons field rest ih =>
    obtain ⟨key, w⟩ := field
    simp only [putField]
    split
    · by_cases h : other = name
      · simp [h]
      · simp [List.lookup_cons, beq_eq_false_iff_ne.2 h, h]
    · split
      · next h =>
        subst h
        by_cases h : other = name
        · simp [h]
        · simp [List.lookup_cons, beq_eq_false_iff_ne.2 h, h]
      · next hne =>
        by_cases h : other = key
        · subst h; simp [Ne.symm hne]
        · simp [List.lookup_cons, beq_eq_false_iff_ne.2 h, ih]

/-- A record of fields listed in any order, of which the last with a name counts. -/
def Value.ofFields (fields : List (String × Value)) : Value :=
  .record (fields.foldl (fun r f => putField f.1 f.2 r) [])

/-- The name that is kept for text within JSON: a record that opens with it stands for the value
whose JSON text it holds. -/
def embeddingName : String := "$serde_json::private::RawValue"

mutual

/-- Whether none of the records in a value opens with the name kept for embedded text. -/
def Value.plain : Value → Bool
  | .list items => plainItems items
  | .record fields =>
    (fields.head?.map Prod.fst != some embeddingName) && plainFields fields
  | _ => true

private def plainItems : List Value → Bool
  | [] => true
  | v :: rest => v.plain && plainItems rest

private def plainFields : List (String × Value) → Bool
  | [] => true
  | (_, v) :: rest => v.plain && plainFields rest

end

/-- The field of a record; `none` when the value is no record or lacks the field. -/
def Value.field? (name : String) : Value → Option Value
  | .record fields => fields.lookup name
  | _ => none

/-- A double as JSON. The special values have no JSON form and become `null`. -/
def Value.ofFloat (x : Float) : Value :=
  match Number.parts x with
  | .finite .. => .float x
  | _ => .null

/-- A 64-bit number as JSON. -/
def Value.ofInt64 (n : Int64) : Value := .int n.toInt

/-- An absent value as `null`. -/
def Value.ofOption {α : Type} (write : α → Value) : Option α → Value
  | none => .null
  | some a => write a

end FleetTrail.Json
