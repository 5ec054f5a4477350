import FleetTrail.Number.Whole
import FleetTrail.Query.Value

/-!
# Markers and placeholders

A fragment of SQL is written with the marker `$?` wherever a value goes. Binding rewrites the
markers from left to right: either each marker takes the next placeholder number and the next
value, or all markers share one number and one value.
-/

namespace FleetTrail.Query

def marker : String := "$?"

/-- Placeholder numbers stay below 2 ^ 64. -/
def placeholderLimit : Nat := UInt64.size - 1

/-- Why values do not fit a fragment. -/
inductive Misfit where
  | tooFew
  | tooMany
  | overflow
  deriving DecidableEq, Repr

def placeholder (n : Nat) : List Char := '$' :: Number.digits n

/-- Rewrites each marker to the next placeholder from `next` on, one value for each. -/
def numberMarkers : Nat → List Char → List Value → Except Misfit (List Char)
  | next, '$' :: '?' :: rest, values =>
    match values with
    | [] => .error .tooFew
    | _ :: values =>
      if next = placeholderLimit then .error .overflow
      else do return placeholder next ++ (← numberMarkers (next + 1) rest values)
  | next, c :: rest, values => do return c :: (← numberMarkers next rest values)
  | _, [], [] => .ok []
  | _, [], _ :: _ => .error .tooMany

/-- Rewrites every marker to the placeholder `n`. -/
def shareMarker (n : Nat) : List Char → List Char
  | '$' :: '?' :: rest => placeholder n ++ shareMarker n rest
  | c :: rest => c :: shareMarker n rest
  | [] => []

end FleetTrail.Query
