import FleetTrail.Json.Text
import FleetTrail.Store.Session

/-!
# A scripted store

A store that knows no SQL: it answers the data statements one after the other with prepared
replies, and any further one with no rows and one affected row. Beginning, committing and
rolling back succeed unless a failure is prepared for them, which then happens once.
-/

namespace FleetTrail.Store

/-- A cell as it comes out of a store that was given it: times have lost what is finer than a
microsecond, and JSON has been text in between. -/
def Cell.fetched : Cell → Cell
  | .time t => .time t.stored
  | .json v => if v.plain then .json v.reread else .garbled
  | cell => cell

/-- What a scripted store still has to say. -/
structure Script where
  replies : List Answer := []
  failBegin : Option String := none
  failCommit : Option String := none
  failRollback : Option String := none
  closed : Bool := false

private def once : Option String → Answer
  | none => .ok {}
  | some text => .error (.refused text)

/-- The answer to a request. Once a transaction runs, its connection is held, so a closed pool
can only refuse what would need a connection of its own. -/
def Script.answer (s : Script) (request : Request) : Answer × Script :=
  if s.closed then (.error .poolClosed, s)
  else
    match request with
    | .begin => (once s.failBegin, { s with failBegin := none })
    | .commit => (once s.failCommit, { s with failCommit := none })
    | .rollback => (once s.failRollback, { s with failRollback := none })
    | .data _ =>
      match s.replies with
      | [] => (.ok {}, s)
      | reply :: rest => (reply, { s with replies := rest })

def Script.store : Responder Script := ⟨Script.answer⟩

end FleetTrail.Store
