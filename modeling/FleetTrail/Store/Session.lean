import FleetTrail.Store.Statement

/-!
# Sessions with the store

A session is a program that talks to a store: it asks requests, goes on from each answer, and
notes what it does in the log. Running a session against a store gives its value, the trace of
what was noted and asked, and the store's final state. A store is any state with any way of
answering, so statements about all stores are statements about all sequences of answers.

Sessions are a lawful monad, and running one after another is running both: the traces are
joined and the state is handed on.
-/

namespace FleetTrail.Store

inductive Level where
  | debug
  | info
  | warn
  | error
  deriving DecidableEq, Repr

structure Note where
  level : Level
  text : String
  deriving DecidableEq, Repr

/-- A program that talks to a store. -/
inductive Session (α : Type) where
  | done (value : α)
  | note (entry : Note) (rest : Session α)
  | ask (request : Request) (resume : Answer → Session α)

namespace Session

/-- Goes on with `f` from the value of a session. -/
def bind {α β : Type} : Session α → (α → Session β) → Session β
  | .done a, f => f a
  | .note entry rest, f => .note entry (rest.bind f)
  | .ask request resume, f => .ask request fun answer => (resume answer).bind f

instance : Monad Session where
  pure := .done
  bind := bind

theorem bind_done {α : Type} (s : Session α) : s.bind .done = s := by
  induction s with
  | done a => rfl
  | note entry rest ih => simp only [bind, ih]
  | ask request resume ih => simp only [bind, ih]

theorem bind_assoc {α β γ : Type} (s : Session α) (f : α → Session β) (g : β → Session γ) :
    (s.bind f).bind g = s.bind fun a => (f a).bind g := by
  induction s with
  | done a => rfl
  | note entry rest ih => simp only [bind, ih]
  | ask request resume ih => simp only [bind, ih]

instance : LawfulMonad Session :=
  LawfulMonad.mk' Session bind_done (fun _ _ => rfl) bind_assoc

def log (level : Level) (text : String) : Session Unit := .note ⟨level, text⟩ (.done ())

def request (r : Request) : Session Answer := .ask r .done

end Session

/-- A state, and how a store in that state answers. -/
structure Responder (σ : Type) where
  answer : σ → Request → Answer × σ

/-- What happened in a run, in order. -/
inductive Step where
  | noted (entry : Note)
  | asked (request : Request) (answer : Answer)
  /-- The connection rolled back what a former session had left open on it. -/
  | cleared (answer : Answer)

structure Run (σ α : Type) where
  value : α
  trace : List Step
  state : σ

def Session.run {σ α : Type} (store : Responder σ) : Session α → σ → Run σ α
  | .done a, s => ⟨a, [], s⟩
  | .note entry rest, s =>
    let r := rest.run store s
    { r with trace := .noted entry :: r.trace }
  | .ask request resume, s =>
    let (answer, s) := store.answer s request
    let r := (resume answer).run store s
    { r with trace := .asked request answer :: r.trace }

/-- A session that goes on runs its first part, and the rest from the state that part left. -/
theorem Session.run_bind {σ α β : Type} (store : Responder σ) (s : Session α)
    (f : α → Session β) (st : σ) :
    (s.bind f).run store st =
      let first := s.run store st
      let second := (f first.value).run store first.state
      ⟨second.value, first.trace ++ second.trace, second.state⟩ := by
  induction s generalizing st with
  | done a => rfl
  | note entry rest ih => simp only [bind, run, ih, List.cons_append]
  | ask request resume ih => simp only [bind, run, ih, List.cons_append]

/-- A request that reached the store. Closed connections send nothing. -/
def Step.sent? : Step → Option Request
  | .asked _ (.error .poolClosed) => none
  | .asked request _ => some request
  | .cleared (.error .poolClosed) => none
  | .cleared _ => some .rollback
  | .noted _ => none

/-- The entry that a step left in the log. -/
def Step.noted? : Step → Option Note
  | .noted entry => some entry
  | .asked .. | .cleared _ => none

/-- The requests that reached the store, in order. -/
def Run.sent {σ α : Type} (r : Run σ α) : List Request := r.trace.filterMap Step.sent?

/-- The log of a run, in order. -/
def Run.notes {σ α : Type} (r : Run σ α) : List Note := r.trace.filterMap Step.noted?

end FleetTrail.Store
