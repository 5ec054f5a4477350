import FleetTrail.Query.Fault
import FleetTrail.Query.Like
import FleetTrail.Query.Marker

/-!
# Building a WHERE clause

A clause is built by a sequence of calls, each of which appends fragments and the values bound
in them. The builder numbers the placeholders itself, so the arguments always line up with the
text. Calls without a value append nothing. Fragments of the named stages must come in the
order of their stages.
-/

namespace FleetTrail.Query

inductive Call where
  /-- A condition that always stands, without values. -/
  | guard (fragment : String)
  /-- A fragment with one marker for a list of offers. -/
  | offerIds (fragment : String) (ids : Option (List Int64))
  | eq (column : String) (value : Option Value)
  /-- Equality of any of the columns with one shared value. -/
  | eqAny (columns : List String) (value : Option Value)
  /-- A case-insensitive substring of any of the columns. Blank terms are ignored. -/
  | contains (columns : List String) (term : Option String)
  /-- Inclusive bounds, each its own fragment. -/
  | range (column : String) (least most : Option Value)
  | within (column : String) (values : Option Value)
  /-- The exclusion of a list. A NULL column is kept. -/
  | notWithin (column : String) (values : Option Value)
  /-- A distance on the globe, when all three numbers are there. -/
  | withinRadius (column : String) (lat lng radiusKm : Option Float)
  /-- Like `contains`, at the end of the clause. -/
  | search (columns : List String) (term : Option String)
  /-- A fragment with a marker for each value. -/
  | predicate (fragment : String) (values : List Value)
  /-- A fragment whose markers share one value. -/
  | shared (fragment : String) (value : Value)

structure Builder where
  fragments : List String
  args : List Value
  next : Nat
  stage : Stage
  guards : Nat

namespace Builder

/-- A builder whose first placeholder has the number `first`. -/
def startingAt (first : Nat) : Builder := ⟨[], [], first, .guard, 0⟩

/-- Appends a fragment with one value for each of its markers. -/
def append (b : Builder) (fragment : String) (values : List Value) : Except Fault Builder :=
  match numberMarkers b.next fragment.toList values with
  | .ok text =>
    .ok { b with
      fragments := b.fragments ++ [String.ofList text]
      args := b.args ++ values
      next := b.next + values.length }
  | .error .tooFew => .error (.tooFewValues fragment)
  | .error .tooMany => .error (.tooManyValues fragment)
  | .error .overflow => .error .placeholderOverflow

/-- Appends a fragment whose markers all stand for `value`. -/
def appendShared (b : Builder) (fragment : String) (value : Value) : Except Fault Builder :=
  if b.next = placeholderLimit then .error .placeholderOverflow
  else .ok { b with
    fragments := b.fragments ++ [String.ofList (shareMarker b.next fragment.toList)]
    args := b.args ++ [value]
    next := b.next + 1 }

/-- Moves on to a stage, which must not lie behind the present one. -/
def enter (b : Builder) (stage : Stage) : Except Fault Builder :=
  if stage.rank < b.stage.rank then .error (.stageOrder stage b.stage)
  else .ok { b with stage }

/-- The fragments other than the guards. -/
def filterCount (b : Builder) : Nat := b.fragments.length - b.guards

end Builder

/-- `column = $?`. -/
def equalsFragment (column : String) : String := column ++ " = " ++ marker

/-- The alternatives in brackets. -/
def anyOf (alternatives : List String) : String :=
  "(" ++ String.intercalate " OR " alternatives ++ ")"

/-- `column ILIKE $?`, or the alternatives in brackets unless there is just one. -/
def likeFragment (columns : List String) : String :=
  match columns.map fun c => c ++ " ILIKE " ++ marker with
  | [single] => single
  | alternatives => anyOf alternatives

/-- `column = ANY($?)`. -/
def withinFragment (column : String) : String := column ++ " = ANY(" ++ marker ++ ")"

/-- NULL columns and columns that differ from every listed value. -/
def notWithinFragment (column : String) : String :=
  "(" ++ column ++ " IS NULL OR " ++ column ++ " <> ALL(" ++ marker ++ "))"

/-- Distance in metres from a point given by longitude and latitude. -/
def radiusFragment (column : String) : String :=
  "ST_DWithin(" ++ column ++ ", ST_SetSRID(ST_MakePoint(" ++ marker ++ ", " ++ marker ++
    "), 4326)::geography, " ++ marker ++ ")"

/-- Appends a bound, when there is one. -/
def appendBound (b : Builder) (column operator : String) :
    Option Value → Except Fault Builder
  | none => .ok b
  | some v => b.append (column ++ operator ++ marker) [v]

def Builder.apply (b : Builder) : Call → Except Fault Builder
  | .guard fragment => do
    let b ← b.enter .guard
    return { b with fragments := b.fragments ++ [fragment], guards := b.guards + 1 }
  | .offerIds fragment ids =>
    match ids with
    | none => .ok b
    | some ids => do (← b.enter .offerIds).append fragment [.ints ids]
  | .eq column value =>
    match value with
    | none => .ok b
    | some v => do (← b.enter .equality).append (equalsFragment column) [v]
  | .eqAny columns value =>
    match value with
    | none => .ok b
    | some v => do (← b.enter .equality).appendShared (anyOf (columns.map equalsFragment)) v
  | .contains columns term =>
    match likePattern term with
    | none => .ok b
    | some pattern => do
      (← b.enter .substring).appendShared (likeFragment columns) (.text pattern)
  | .range column least most =>
    if least.isNone ∧ most.isNone then .ok b
    else do
      let b ← b.enter .range
      let b ← appendBound b column " >= " least
      appendBound b column " <= " most
  | .within column values =>
    match values with
    | none => .ok b
    | some v => do (← b.enter .membership).append (withinFragment column) [v]
  | .notWithin column values =>
    match values with
    | none => .ok b
    | some v => do (← b.enter .membership).append (notWithinFragment column) [v]
  | .withinRadius column lat lng radiusKm =>
    match lat, lng, radiusKm with
    | some lat, some lng, some km => do
      (← b.enter .radius).append (radiusFragment column)
        [.float lng, .float lat, .float (km * 1000.0)]
    | _, _, _ => .ok b
  | .search columns term =>
    match likePattern term with
    | none => .ok b
    | some pattern => do
      (← b.enter .search).appendShared (likeFragment columns) (.text pattern)
  | .predicate fragment values => b.append fragment values
  | .shared fragment value => b.appendShared fragment value

/-- A finished clause with the values bound in it. -/
structure Compiled where
  clause : String
  args : List Value
  next : Nat
  filterCount : Nat

/-- The clause of a builder; without fragments it is empty. -/
def Builder.build (b : Builder) : Compiled where
  clause :=
    if b.fragments.isEmpty then "" else "WHERE " ++ String.intercalate " AND " b.fragments
  args := b.args
  next := b.next
  filterCount := b.filterCount

/-- The clause of a sequence of calls. -/
def compile (calls : List Call) : Except Fault Compiled := do
  return (← calls.foldlM Builder.apply (Builder.startingAt 1)).build

/-- The text of a page limit, which binds its two numbers behind the arguments of the clause. -/
def Compiled.limitClause (c : Compiled) (limit offset : Int64) :
    Except Fault (String × Compiled) :=
  if placeholderLimit < c.next + 2 then .error .placeholderOverflow
  else .ok
    ("LIMIT " ++ String.ofList (placeholder c.next) ++ " OFFSET " ++
        String.ofList (placeholder (c.next + 1)),
      { c with args := c.args ++ [.int limit, .int offset], next := c.next + 2 })

end FleetTrail.Query
