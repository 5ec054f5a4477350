/-!
# Faults of a query

What goes wrong when a query is put together against the rules of the builder. A fault is a
defect of the code that states the query, not of its input.
-/

namespace FleetTrail.Query

/-- The stages of a WHERE clause, in the order in which its fragments stand. -/
inductive Stage where
  | guard
  | offerIds
  | equality
  | substring
  | range
  | membership
  | radius
  | search
  deriving DecidableEq, Repr

namespace Stage

def rank : Stage → Nat
  | .guard => 0
  | .offerIds => 1
  | .equality => 2
  | .substring => 3
  | .range => 4
  | .membership => 5
  | .radius => 6
  | .search => 7

def name : Stage → String
  | .guard => "Guard"
  | .offerIds => "OfferIds"
  | .equality => "Equality"
  | .substring => "Substring"
  | .range => "Range"
  | .membership => "Membership"
  | .radius => "Radius"
  | .search => "Search"

end Stage

/-- A broken rule. -/
inductive Fault where
  | tooFewValues (fragment : String)
  | tooManyValues (fragment : String)
  | stageOrder (stage after : Stage)
  | placeholderOverflow
  | emptyWhitelist
  deriving DecidableEq, Repr

def Fault.message : Fault → String
  | .tooFewValues fragment => "fewer values than placeholders in '" ++ fragment ++ "'"
  | .tooManyValues fragment => "more values than placeholders in '" ++ fragment ++ "'"
  | .stageOrder stage after =>
    "predicate stage " ++ stage.name ++ " appended after " ++ after.name
  | .placeholderOverflow => "attempt to add with overflow"
  | .emptyWhitelist => "index out of bounds: the len is 0 but the index is 0"

end FleetTrail.Query
