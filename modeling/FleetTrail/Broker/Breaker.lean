/-!
# The circuit breaker

Counts receive errors in a row. From `max` of them on the breaker is open.
-/

namespace FleetTrail.Broker

structure Breaker where
  failures : Nat
  max : Nat
  deriving DecidableEq, Repr

namespace Breaker

/-- A breaker without failures. -/
def closed (max : Nat) : Breaker := ⟨0, max⟩

def isOpen (b : Breaker) : Bool := b.max ≤ b.failures

def recordFailure (b : Breaker) : Breaker := { b with failures := b.failures + 1 }

def reset (b : Breaker) : Breaker := { b with failures := 0 }

end Breaker

end FleetTrail.Broker
