import FleetTrail.Store.Session

/-!
# Connections

A connection outlives the sessions that run on it. A transaction that was begun but neither
committed nor rolled back, because the store refused to, stays open on the connection. It is
rolled back before the connection is used again, and whatever the store answers to that, the
connection is clean from there on. On a clean connection a session runs as it does against the
store itself.
-/

namespace FleetTrail.Store

/-- A connection to a store: the state of the store, and whether a transaction was left open. -/
structure Connection (σ : Type) where
  state : σ
  leftOpen : Bool := false

/-- Whether a transaction is open on a connection after a step, if it was `before` or not. A
transaction that could not begin counts as open. -/
def Step.leavesOpen (before : Bool) : Step → Bool
  | .asked _ (.error .poolClosed) => before
  | .asked .begin _ => true
  | .asked .commit (.ok _) | .asked .rollback (.ok _) => false
  | _ => before

def Connection.clear {σ : Type} (store : Responder σ) (c : Connection σ) :
    List Step × Connection σ :=
  if c.leftOpen then
    let (answer, s) := store.answer c.state .rollback
    ([.cleared answer], ⟨s, false⟩)
  else ([], c)

/-- Runs a session on a connection, which is cleared when the first request needs it. -/
def Session.runOn {σ α : Type} (store : Responder σ) :
    Session α → Connection σ → Run (Connection σ) α
  | .done a, c => ⟨a, [], c⟩
  | .note entry rest, c =>
    let r := rest.runOn store c
    { r with trace := .noted entry :: r.trace }
  | .ask request resume, c =>
    let (cleared, c) := c.clear store
    let r := (Session.ask request resume).run store c.state
    ⟨r.value, cleared ++ r.trace, ⟨r.state, r.trace.foldl Step.leavesOpen false⟩⟩

end FleetTrail.Store
