import FleetTrail.Store.Statement
import FleetTrail.Text.Quoted

/-!
# Columns of a row

Typed reading of the cells of a row. A column that may be NULL gives an optional value; NULL in
any other column is an error that names the column.
-/

namespace FleetTrail.Store

namespace Cell

def int? : Cell → Option Int64
  | .int n => some n
  | _ => none

def float? : Cell → Option Float
  | .float x => some x
  | _ => none

def text? : Cell → Option String
  | .text s => some s
  | _ => none

def bool? : Cell → Option Bool
  | .bool b => some b
  | _ => none

def time? : Cell → Option Time.Instant
  | .time t => some t
  | _ => none

def json? : Cell → Option Json.Value
  | .json v => some v
  | _ => none

end Cell

namespace Row

/-- The cell of a column. -/
def cell (row : Row) (column : String) : Cell := (row.lookup column).getD .null

/-- The value of a column that must not be NULL; `index` is how an error calls the column. -/
def valueAs {α : Type} (row : Row) (index column : String) (read : Cell → Option α) :
    Except StoreError α :=
  match read (row.cell column) with
  | some a => .ok a
  | none => .error (.columnDecode index)

/-- The value of a column that must not be NULL. -/
def value {α : Type} (row : Row) (column : String) (read : Cell → Option α) :
    Except StoreError α :=
  row.valueAs (Text.quoted column) column read

/-- The value of a column that may be NULL. -/
def optional {α : Type} (row : Row) (column : String) (read : Cell → Option α) :
    Except StoreError (Option α) :=
  match row.cell column with
  | .null => .ok none
  | c =>
    match read c with
    | some a => .ok (some a)
    | none => .error (.columnDecode (Text.quoted column))

/-- The only column of a row, an id. -/
def id (row : Row) : Except StoreError Int64 := row.valueAs "0" "id" Cell.int?

end Row

end FleetTrail.Store
