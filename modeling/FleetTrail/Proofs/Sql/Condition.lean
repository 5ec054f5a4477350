import FleetTrail.Proofs.Sql.Truth
import FleetTrail.Query.Value

/-!
# Conditions and what they mean

The conditions of a WHERE clause, and their truth at a row under the values bound to the
placeholders. Pattern matching, distances and the contents of other tables are taken as given.
-/

namespace FleetTrail.Sql

open Query

structure Column where
  source : String
  field : String
  deriving DecidableEq, Repr

inductive Operand where
  | column (c : Column)
  | param (n : Nat)
  | falsity
  | coalesce (first second : Operand)
  deriving DecidableEq, Repr

inductive Relation where
  | equals
  | atLeast
  | atMost
  deriving DecidableEq, Repr

inductive Condition where
  | compare (left : Operand) (relation : Relation) (right : Operand)
  | isNull (operand : Operand)
  /-- `operand = ANY(list)`. -/
  | anyOf (operand list : Operand)
  /-- `operand <> ALL(list)`. -/
  | noneOf (operand list : Operand)
  | ilike (operand pattern : Operand)
  /-- `ST_DWithin` of a place and the point at longitude `x` and latitude `y`. -/
  | near (place x y metres : Operand)
  /-- `operand IN (SELECT selected FROM table label WHERE condition)`. -/
  | among (operand : Operand) (selected : Column) (table label : String) (condition : Condition)
  | and (first second : Condition)
  | or (first second : Condition)
  deriving DecidableEq, Repr

/-- The value of each column of a row; NULL is `none`. -/
abbrev Row := String → String → Option Value

/-- What is taken as given: the two predicates, and the rows of the tables that are looked up. -/
structure Given where
  ilike : Value → Value → Bool
  near : Value → Value → Value → Value → Bool
  table : String → List (String → Option Value)

/-- Equality of the store: NaN equals itself, values of different kinds are never equal. -/
def same : Value → Value → Bool
  | .int n, .int m => n == m
  | .float x, .float y => (x.isNaN && y.isNaN) || x == y
  | .text s, .text t => s == t
  | .bool b, .bool c => b == c
  | .time t, .time u => t == u
  | .ints ns, .ints ms => ns == ms
  | .texts ss, .texts ts => ss == ts
  | _, _ => false

/-- The order of floats in the store, with NaN above every number. -/
def floatAtMost (x y : Float) : Bool := y.isNaN || x ≤ y

def timeAtMost (t u : Time.Instant) : Bool :=
  t.seconds < u.seconds || (t.seconds == u.seconds && t.nanos ≤ u.nanos)

/-- The order of numbers and of instants; values of other kinds are not ordered. -/
def ordered : Value → Value → Bool
  | .int n, .int m => n ≤ m
  | .float x, .float y => floatAtMost x y
  | .time t, .time u => timeAtMost t u
  | _, _ => false

def Relation.holds : Relation → Value → Value → Bool
  | .equals, v, w => same v w
  | .atLeast, v, w => ordered w v
  | .atMost, v, w => ordered v w

/-- A predicate of two values is unknown when one of them is NULL. -/
def strict (p : Value → Value → Bool) : Option Value → Option Value → Truth
  | some v, some w => .ofBool (p v w)
  | _, _ => .unknown

def elements : Value → List Value
  | .ints ns => ns.map .int
  | .texts ss => ss.map .text
  | _ => []

/-- The value bound to the placeholder `n`; the first has the number one. -/
def bound (args : List Value) : Nat → Option Value
  | 0 => none
  | n + 1 => args[n]?

def Row.beside (row : Row) (label : String) (link : String → Option Value) : Row :=
  fun source field => if source = label then link field else row source field

def Operand.value (args : List Value) (row : Row) : Operand → Option Value
  | .column c => row c.source c.field
  | .param n => bound args n
  | .falsity => some (.bool false)
  | .coalesce first second => (first.value args row).or (second.value args row)

def Condition.truth (given : Given) (args : List Value) (row : Row) : Condition → Truth
  | .compare left relation right =>
    strict relation.holds (left.value args row) (right.value args row)
  | .isNull operand => .ofBool (operand.value args row).isNone
  | .anyOf operand list =>
    match list.value args row with
    | none => .unknown
    | some array =>
      .any ((elements array).map fun v => strict same (operand.value args row) (some v))
  | .noneOf operand list =>
    match list.value args row with
    | none => .unknown
    | some array =>
      .all ((elements array).map fun v =>
        strict (fun v w => !same v w) (operand.value args row) (some v))
  | .ilike operand pattern => strict given.ilike (operand.value args row) (pattern.value args row)
  | .near place x y metres =>
    match place.value args row, x.value args row, y.value args row, metres.value args row with
    | some place, some x, some y, some metres => .ofBool (given.near place x y metres)
    | _, _, _, _ => .unknown
  | .among operand selected table label condition =>
    let links := (given.table table).map (row.beside label)
    .any ((links.filter fun link => condition.truth given args link = .yes).map fun link =>
      strict same (operand.value args row) (link selected.source selected.field))
  | .and first second => (first.truth given args row).and (second.truth given args row)
  | .or first second => (first.truth given args row).or (second.truth given args row)

def Condition.conj (first : Condition) (rest : List Condition) : Condition := rest.foldl .and first

def Condition.disj (first : Condition) (rest : List Condition) : Condition := rest.foldl .or first

section Truth

variable {given : Given} {args : List Value} {row : Row}

theorem truth_conj {first : Condition} {rest : List Condition} :
    (Condition.conj first rest).truth given args row = .yes ↔
      ∀ c ∈ first :: rest, c.truth given args row = .yes := by
  rw [Condition.conj]
  induction rest generalizing first with
  | nil => simp
  | cons c rest ih =>
    rw [List.foldl_cons, ih]
    simp [Condition.truth, and_assoc]

theorem truth_disj {first : Condition} {rest : List Condition} :
    (Condition.disj first rest).truth given args row = .yes ↔
      ∃ c ∈ first :: rest, c.truth given args row = .yes := by
  rw [Condition.disj]
  induction rest generalizing first with
  | nil => simp
  | cons c rest ih =>
    rw [List.foldl_cons, ih]
    simp [Condition.truth, or_assoc]

theorem strict_eq_yes {p : Value → Value → Bool} {v w : Option Value} :
    strict p v w = .yes ↔ ∃ a b, v = some a ∧ w = some b ∧ p a b = true := by
  cases v <;> cases w <;> simp [strict]

end Truth

end FleetTrail.Sql
