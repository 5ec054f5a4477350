import FleetTrail.Failure

/-!
# Units of work

A unit of work runs in one transaction. It is settled exactly once: committed when its body
succeeded, rolled back otherwise. The failure of the body is what the caller gets, even when
the rollback fails as well.
-/

namespace FleetTrail.Service

open Store

/-- Ends a transaction whose body came to `result`. -/
def settle {α : Type} (result : Except Failure α) : Session (Except Failure α) :=
  match result with
  | .ok a => .ask .commit fun
    | .ok _ => .done (.ok a)
    | .error e => .done (.error (.transaction .commit e))
  | .error failure => .ask .rollback fun
    | .ok _ => .done (.error failure)
    | .error e =>
      .note ⟨.warn, "Rollback failed after '" ++ failure.message ++ "': " ++ e.message⟩
        (.done (.error failure))

/-- Runs `body` in a transaction of its own. -/
def transaction {α : Type} (body : Work α) : Work α :=
  ExceptT.mk <| .ask .begin fun
    | .ok _ => body.run.bind settle
    | .error e => .done (.error (.transaction .begin e))

/-- Asks a data statement; a store error becomes the failure that `wrap` makes of it. -/
def ask (wrap : StoreError → Failure) (sql : String) (args : List Bound) : Work Reply :=
  ExceptT.mk <| .ask (.data ⟨sql, args⟩) fun
    | .ok reply => .done (.ok reply)
    | .error e => .done (.error (wrap e))

/-- The value of a check, or its failure. -/
def check {α : Type} (result : Except Failure α) : Work α := ExceptT.mk (.done result)

/-- The value read from a row, or the failure that `wrap` makes of a column that has none. -/
def decode {α : Type} (wrap : StoreError → Failure) (result : Except StoreError α) : Work α :=
  check (result.mapError wrap)

end FleetTrail.Service
