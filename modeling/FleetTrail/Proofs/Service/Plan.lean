import FleetTrail.Service.Transaction

/-!
# Plans

The body of a unit of work as the steps it is made of. A step sends one statement, and its phase
is the name under which a store error of that statement is reported. What comes back is checked
before the next step: a check that fails ends the plan. `Carried` says what carrying out a plan
looks like on the wire, and `Plan.carried` that a plan's session looks like that on every store.
-/

namespace FleetTrail

namespace Store

structure Exchange where
  request : Request
  answer : Answer

def Step.exchange? : Step → Option Exchange
  | .asked request answer => some ⟨request, answer⟩
  | .noted _ | .cleared _ => none

def Run.exchanges {σ α : Type} (r : Run σ α) : List Exchange := r.trace.filterMap Step.exchange?

namespace Session

variable {σ α β : Type} (store : Responder σ)

@[simp] theorem exchanges_done (a : α) (s : σ) :
    ((Session.done a).run store s).exchanges = [] := rfl

@[simp] theorem exchanges_note (entry : Note) (rest : Session α) (s : σ) :
    ((Session.note entry rest).run store s).exchanges = (rest.run store s).exchanges := rfl

@[simp] theorem exchanges_ask (request : Request) (resume : Answer → Session α) (s : σ) :
    ((Session.ask request resume).run store s).exchanges =
      ⟨request, (store.answer s request).1⟩ ::
        ((resume (store.answer s request).1).run store (store.answer s request).2).exchanges := rfl

theorem exchanges_bind (session : Session α) (f : α → Session β) (s : σ) :
    ((session.bind f).run store s).exchanges =
      (session.run store s).exchanges ++
        ((f (session.run store s).value).run store (session.run store s).state).exchanges := by
  rw [run_bind]
  exact List.filterMap_append

theorem value_bind (session : Session α) (f : α → Session β) (s : σ) :
    ((session.bind f).run store s).value =
      ((f (session.run store s).value).run store (session.run store s).state).value := by
  rw [run_bind]

end Session

end Store

namespace Service

open Store

/-- The steps of a unit of work. -/
inductive Plan (α : Type) where
  /-- Nothing is left to do. -/
  | finish (value : α)
  /-- A check did not hold. -/
  | fail (failure : Failure)
  /-- A statement, and how its reply is used. -/
  | step (phase : Phase) (statement : Statement) (next : Reply → Plan α)

/-- A failure as a check behind the statement of `phase` reports it: a store error is wrapped
with that phase. -/
def NamedBy (phase : Option Phase) : Failure → Prop
  | .transaction named _ => phase = some named
  | .database _ => False
  | _ => True

/-- A check behind the statement of `phase` fails only in ways it may report. -/
def Reports {α : Type} (phase : Option Phase) (result : Except Failure α) : Prop :=
  ∀ failure, result = .error failure → NamedBy phase failure

namespace Reports

variable {α β : Type} {phase : Option Phase}

theorem ok (a : α) : Reports phase (.ok a) := fun _ h => nomatch h

theorem error {failure : Failure} (h : NamedBy phase failure) :
    Reports phase (.error failure : Except Failure α) := by
  rintro _ ⟨⟩
  exact h

theorem bind {result : Except Failure α} {f : α → Except Failure β} (h : Reports phase result)
    (hf : ∀ a, Reports phase (f a)) : Reports phase (result >>= f) := by
  cases result with
  | ok a => exact hf a
  | error failure => exact error (h failure rfl)

theorem wrapped (phase : Phase) (result : Except StoreError α) :
    Reports (some phase) (result.mapError (.transaction phase)) := by
  cases result with
  | ok a => exact ok a
  | error e => exact error rfl

theorem decoded (result : Except Geo.PointError α) : Reports phase (result.mapError .decode) := by
  cases result with
  | ok a => exact ok a
  | error e => exact error trivial

theorem mapM {γ : Type} {f : γ → Except Failure α} (h : ∀ c, Reports phase (f c)) (cs : List γ) :
    Reports phase (cs.mapM f) := by
  induction cs with
  | nil => exact ok []
  | cons c rest ih =>
    rw [List.mapM_cons]
    exact (h c).bind fun a => ih.bind fun as => ok (a :: as)

end Reports

namespace Plan

variable {α β : Type}

def require (result : Except Failure β) (next : β → Plan α) : Plan α :=
  match result with
  | .ok b => next b
  | .error failure => .fail failure

def session : Plan α → Session (Except Failure α)
  | .finish a => .done (.ok a)
  | .fail failure => .done (.error failure)
  | .step phase statement next => .ask (.data statement) fun
    | .ok reply => (next reply).session
    | .error e => .done (.error (.transaction phase e))

/-- Every check of a plan, where `phase` is the step before it, wraps store errors. -/
def Named : Option Phase → Plan α → Prop
  | _, .finish _ => True
  | phase, .fail failure => NamedBy phase failure
  | _, .step phase _ next => ∀ reply, (next reply).Named (some phase)

theorem named_require {phase : Option Phase} {result : Except Failure β} {next : β → Plan α}
    (hresult : Reports phase result) (hnext : ∀ b, (next b).Named phase) :
    (require result next).Named phase := by
  cases result with
  | ok b => exact hnext b
  | error failure => exact hresult failure rfl

end Plan

/-- Carrying out a plan: the exchanges it makes and what it comes to. `phase` is the step before.
The first refused statement and the first failed check end it. -/
inductive Carried {α : Type} : Option Phase → Plan α → List Exchange → Except Failure α → Prop
  | finished {phase : Option Phase} (a : α) : Carried phase (.finish a) [] (.ok a)
  | failed {phase : Option Phase} {failure : Failure} (named : NamedBy phase failure) :
      Carried phase (.fail failure) [] (.error failure)
  | refused {before : Option Phase} {phase : Phase} {statement : Statement}
      {next : Reply → Plan α} (e : StoreError) :
      Carried before (.step phase statement next) [⟨.data statement, .error e⟩]
        (.error (.transaction phase e))
  | answered {before : Option Phase} {phase : Phase} {statement : Statement}
      {next : Reply → Plan α} {reply : Reply} {later : List Exchange}
      {result : Except Failure α} (rest : Carried (some phase) (next reply) later result) :
      Carried before (.step phase statement next) (⟨.data statement, .ok reply⟩ :: later) result

section Carrying

variable {α β : Type} {phase before : Option Phase} {body : List Exchange}

theorem Carried.of_step_ok {name : Phase} {statement : Statement} {next : Reply → Plan α} {a : α}
    (h : Carried before (.step name statement next) body (.ok a)) :
    ∃ reply later, body = ⟨.data statement, .ok reply⟩ :: later ∧
      Carried (some name) (next reply) later (.ok a) := by
  cases h with
  | answered rest => exact ⟨_, _, rfl, rest⟩

theorem Carried.of_require_ok {result : Except Failure β} {next : β → Plan α} {a : α}
    (h : Carried before (.require result next) body (.ok a)) :
    ∃ b, result = .ok b ∧ Carried before (next b) body (.ok a) := by
  cases result with
  | error failure => cases h
  | ok b => exact ⟨b, rfl, h⟩

theorem Carried.of_step_error {name : Phase} {statement : Statement} {next : Reply → Plan α}
    {failure : Failure} (h : Carried before (.step name statement next) body (.error failure)) :
    (∃ e, failure = .transaction name e) ∨
      ∃ reply later, body = ⟨.data statement, .ok reply⟩ :: later ∧
        Carried (some name) (next reply) later (.error failure) := by
  cases h with
  | refused e => exact .inl ⟨e, rfl⟩
  | answered rest => exact .inr ⟨_, _, rfl, rest⟩

theorem Carried.of_require_error {result : Except Failure β} {next : β → Plan α}
    {failure : Failure} (h : Carried before (.require result next) body (.error failure)) :
    result = .error failure ∨
      ∃ b, result = .ok b ∧ Carried before (next b) body (.error failure) := by
  cases result with
  | ok b => exact .inr ⟨b, rfl, h⟩
  | error e =>
    cases h
    exact .inl rfl

end Carrying

theorem Plan.carried {σ α : Type} (store : Responder σ) (plan : Plan α) (phase : Option Phase)
    (hnamed : plan.Named phase) (s : σ) :
    Carried phase plan (plan.session.run store s).exchanges (plan.session.run store s).value := by
  induction plan generalizing phase s with
  | finish a => exact .finished a
  | fail failure => exact .failed hnamed
  | step name statement next ih =>
    simp only [session, Session.run]
    cases h : (store.answer s (.data statement)).1 with
    | error e => exact .refused e
    | ok reply => exact .answered (ih reply (some name) (hnamed reply) _)

/-- A unit of work on the wire: it begins, carries out its plan, and settles once. It is committed
when every step succeeded and rolled back otherwise. `give` is what the caller is told when the
commit succeeds; else it is told what failed first. -/
inductive Atomic {α β : Type} (plan : Plan α) (give : α → β) :
    List Exchange → Except Failure β → Prop
  /-- It does not begin, and nothing else is sent. -/
  | unbegun (e : StoreError) :
      Atomic plan give [⟨.begin, .error e⟩] (.error (.transaction .begin e))
  | committed {begun done : Reply} {body : List Exchange} {a : α}
      (carried : Carried none plan body (.ok a)) :
      Atomic plan give (⟨.begin, .ok begun⟩ :: body ++ [⟨.commit, .ok done⟩]) (.ok (give a))
  /-- Every step succeeded, but the commit did not. -/
  | uncommitted {begun : Reply} {body : List Exchange} {a : α} (e : StoreError)
      (carried : Carried none plan body (.ok a)) :
      Atomic plan give (⟨.begin, .ok begun⟩ :: body ++ [⟨.commit, .error e⟩])
        (.error (.transaction .commit e))
  /-- A step failed. Its failure is reported whatever the rollback comes to. -/
  | rolledBack {begun : Reply} {body : List Exchange} {failure : Failure} (answer : Answer)
      (carried : Carried none plan body (.error failure)) :
      Atomic plan give (⟨.begin, .ok begun⟩ :: body ++ [⟨.rollback, answer⟩]) (.error failure)

theorem Atomic.map {α β : Type} {plan : Plan α} {exchanges : List Exchange}
    {result : Except Failure α} (give : α → β) (h : Atomic plan id exchanges result) :
    Atomic plan give exchanges (result.map give) := by
  cases h with
  | unbegun e => exact .unbegun e
  | committed carried => exact .committed carried
  | uncommitted e carried => exact .uncommitted e carried
  | rolledBack answer carried => exact .rolledBack answer carried

theorem Atomic.of_ok {α β : Type} {plan : Plan α} {give : α → β} {exchanges : List Exchange} {b : β}
    (h : Atomic plan give exchanges (.ok b)) :
    ∃ begun body done a, exchanges = ⟨.begin, .ok begun⟩ :: body ++ [⟨.commit, .ok done⟩] ∧
      Carried none plan body (.ok a) := by
  cases h with
  | committed carried => exact ⟨_, _, _, _, rfl, carried⟩

theorem exchanges_settle {σ α : Type} (store : Responder σ) (result : Except Failure α) (s : σ) :
    let request : Request := match result with | .ok _ => .commit | .error _ => .rollback
    ((settle result).run store s).exchanges = [⟨request, (store.answer s request).1⟩] := by
  cases result with
  | ok a =>
    simp only [settle, Session.exchanges_ask, List.cons.injEq, true_and]
    cases (store.answer s .commit).1 <;> rfl
  | error failure =>
    simp only [settle, Session.exchanges_ask, List.cons.injEq, true_and]
    cases (store.answer s .rollback).1 <;> rfl

theorem value_settle {σ α : Type} (store : Responder σ) (result : Except Failure α) (s : σ) :
    ((settle result).run store s).value =
      match result with
      | .ok a =>
        match (store.answer s .commit).1 with
        | .ok _ => .ok a
        | .error e => .error (.transaction .commit e)
      | .error failure => .error failure := by
  cases result with
  | ok a =>
    simp only [settle, Session.run]
    cases (store.answer s .commit).1 <;> rfl
  | error failure =>
    simp only [settle, Session.run]
    cases (store.answer s .rollback).1 <;> rfl

/-- A transaction around the session of a plan is a unit of work. -/
theorem transaction_atomic {σ α : Type} (store : Responder σ) {body : Work α} {plan : Plan α}
    (hbody : body.run = plan.session) (hnamed : plan.Named none) (s : σ) :
    Atomic plan id ((transaction body).run.run store s).exchanges
      ((transaction body).run.run store s).value := by
  have hrun : ((transaction body).run.run store s) =
      (Session.ask .begin fun
        | .ok _ => body.run.bind settle
        | .error e => .done (.error (.transaction .begin e))).run store s := rfl
  rw [hrun, hbody]
  simp only [Session.exchanges_ask]
  cases hbegin : (store.answer s .begin).1 with
  | error e =>
    simp only [Session.run, hbegin]
    exact .unbegun e
  | ok begun =>
    have hplan := plan.carried store none hnamed (store.answer s .begin).2
    simp only [Session.run, hbegin, Session.exchanges_bind, Session.value_bind]
    rw [exchanges_settle, value_settle]
    generalize (plan.session.run store (store.answer s .begin).2) = body at hplan ⊢
    cases hvalue : body.value with
    | error failure =>
      rw [hvalue] at hplan
      exact .rolledBack _ hplan
    | ok a =>
      rw [hvalue] at hplan
      cases (store.answer body.state .commit).1 with
      | ok done => exact .committed hplan
      | error e => exact .uncommitted e hplan

end Service

end FleetTrail
