import FleetTrail.Proofs.Service.Plan

/-!
# What the answers decide

A store may answer as it likes, but what it has answered so far decides what it is asked next. So a
unit of work comes out as the answers say: `Atomic.ok_iff` and `Atomic.error_iff` name the answers
that lead to a value and to each failure.
-/

namespace FleetTrail

namespace Store

variable {σ α : Type} {store : Responder σ} {s : σ}

/-- Asked these requests one after the other, the store gives these answers. -/
def Responder.Gives (store : Responder σ) : σ → List Exchange → Prop
  | _, [] => True
  | s, x :: later =>
    (store.answer s x.request).1 = x.answer ∧ store.Gives (store.answer s x.request).2 later

theorem Session.gives_run (store : Responder σ) (session : Session α) (s : σ) :
    store.Gives s (session.run store s).exchanges := by
  induction session generalizing s with
  | done a => exact trivial
  | note entry rest ih => exact ih s
  | ask request resume ih =>
    rw [exchanges_ask]
    exact ⟨rfl, ih _ _⟩

namespace Responder.Gives

variable {before later later' : List Exchange}

theorem front (h : store.Gives s (before ++ later)) : store.Gives s before := by
  induction before generalizing s with
  | nil => exact trivial
  | cons x before ih => exact ⟨h.1, ih h.2⟩

theorem head {x y : Exchange} (hx : store.Gives s (x :: later)) (hy : store.Gives s (y :: later'))
    (h : x.request = y.request) : x = y := by
  cases x
  cases y
  have hanswers := hx.1.symm.trans ((congrArg (fun r => (store.answer s r).1) h).trans hy.1)
  simp_all

theorem same {x y : Exchange} (hx : store.Gives s (before ++ x :: later))
    (hy : store.Gives s (before ++ y :: later')) (h : x.request = y.request) : x = y := by
  induction before generalizing s with
  | nil => exact hx.head hy h
  | cons z before ih => exact ih hx.2 hy.2

theorem extend (h : store.Gives s before) (request : Request) :
    ∃ answer, store.Gives s (before ++ [⟨request, answer⟩]) := by
  induction before generalizing s with
  | nil => exact ⟨(store.answer s request).1, rfl, trivial⟩
  | cons x before ih =>
    obtain ⟨answer, hanswer⟩ := ih h.2
    exact ⟨answer, h.1, hanswer⟩

end Responder.Gives

end Store

namespace Service

open Store

variable {σ α β : Type} {store : Responder σ} {s : σ} {plan : Plan α} {give : α → β}

theorem Carried.same {phase phase' : Option Phase} {body body' later later' : List Exchange}
    {result result' : Except Failure α} (h : Carried phase plan body result)
    (h' : Carried phase' plan body' result') (hgives : store.Gives s (body ++ later))
    (hgives' : store.Gives s (body' ++ later')) : body = body' ∧ result = result' := by
  induction h generalizing phase' s body' result' with
  | finished a =>
    cases h'
    exact ⟨rfl, rfl⟩
  | failed named =>
    cases h'
    exact ⟨rfl, rfl⟩
  | refused e =>
    cases h' with
    | refused e' =>
      cases hgives.head hgives' rfl
      exact ⟨rfl, rfl⟩
    | answered rest => cases hgives.head hgives' rfl
  | answered rest ih =>
    cases h' with
    | refused e' => cases hgives.head hgives' rfl
    | answered rest' =>
      cases hgives.head hgives' rfl
      obtain ⟨hbody, hresult⟩ := ih rest' hgives.2 hgives'.2
      exact ⟨congrArg _ hbody, hresult⟩

section Steps

variable {before : Option Phase} {body : List Exchange} {failure : Failure}

theorem Carried.require_ok {result : Except Failure β} {next : β → Plan α} {b : β}
    {value : Except Failure α} (h : result = .ok b) (rest : Carried before (next b) body value) :
    Carried before (.require result next) body value := by
  subst h
  exact rest

theorem Carried.require_error {result : Except Failure β} {next : β → Plan α}
    (h : result = .error failure) (named : NamedBy before failure) :
    Carried before (.require result next) [] (.error failure) := by
  subst h
  exact .failed named

theorem carried_step_error_iff {name : Phase} {statement : Statement} {next : Reply → Plan α} :
    Carried before (.step name statement next) body (.error failure) ↔
      (∃ e, body = [⟨.data statement, .error e⟩] ∧ failure = .transaction name e) ∨
        ∃ reply later, body = ⟨.data statement, .ok reply⟩ :: later ∧
          Carried (some name) (next reply) later (.error failure) := by
  constructor
  · intro h
    cases h with
    | refused e => exact .inl ⟨e, rfl, rfl⟩
    | answered rest => exact .inr ⟨_, _, rfl, rest⟩
  · intro h
    rcases h with ⟨e, rfl, rfl⟩ | ⟨reply, later, rfl, rest⟩
    · exact .refused e
    · exact .answered rest

theorem carried_require_error_iff {result : Except Failure β} {next : β → Plan α} :
    Carried before (.require result next) body (.error failure) ↔
      (body = [] ∧ result = .error failure ∧ NamedBy before failure) ∨
        ∃ b, result = .ok b ∧ Carried before (next b) body (.error failure) := by
  constructor
  · intro h
    cases result with
    | ok b => exact .inr ⟨b, rfl, h⟩
    | error e =>
      cases h with
      | failed named => exact .inl ⟨rfl, rfl, named⟩
  · intro h
    rcases h with ⟨rfl, hresult, named⟩ | ⟨b, hresult, rest⟩
    · exact .require_error hresult named
    · exact .require_ok hresult rest

end Steps

def settlement : Except Failure α → Request
  | .ok _ => .commit
  | .error _ => .rollback

/-- What the caller is told when the settlement is answered. -/
def told (give : α → β) : Except Failure α → Answer → Except Failure β
  | .ok a, .ok _ => .ok (give a)
  | .ok _, .error e => .error (.transaction .commit e)
  | .error failure, _ => .error failure

theorem atomic_iff {exchanges : List Exchange} {value : Except Failure β} :
    Atomic plan give exchanges value ↔
      (∃ e, exchanges = [⟨.begin, .error e⟩] ∧ value = .error (.transaction .begin e)) ∨
      ∃ begun body result answer, Carried none plan body result ∧
        exchanges = ⟨.begin, .ok begun⟩ :: body ++ [⟨settlement result, answer⟩] ∧
        value = told give result answer := by
  constructor
  · intro h
    cases h with
    | unbegun e => exact .inl ⟨e, rfl, rfl⟩
    | committed carried => exact .inr ⟨_, _, _, _, carried, rfl, rfl⟩
    | uncommitted e carried => exact .inr ⟨_, _, _, _, carried, rfl, rfl⟩
    | rolledBack answer carried => exact .inr ⟨_, _, _, answer, carried, rfl, rfl⟩
  · intro h
    rcases h with ⟨e, rfl, rfl⟩ | ⟨begun, body, result, answer, carried, rfl, rfl⟩
    · exact .unbegun e
    · cases result with
      | error failure => exact .rolledBack answer carried
      | ok a =>
        cases answer with
        | ok done => exact .committed carried
        | error e => exact .uncommitted e carried

/-- A store leaves one way for a unit of work. -/
theorem Atomic.same {exchanges exchanges' : List Exchange} {value value' : Except Failure β}
    (h : Atomic plan give exchanges value) (h' : Atomic plan give exchanges' value')
    (hgives : store.Gives s exchanges) (hgives' : store.Gives s exchanges') :
    exchanges = exchanges' ∧ value = value' := by
  rw [atomic_iff] at h h'
  rcases h with ⟨e, rfl, rfl⟩ | ⟨begun, body, result, answer, carried, rfl, rfl⟩
  · rcases h' with ⟨e', rfl, rfl⟩ | ⟨_, _, _, _, _, rfl, rfl⟩
    · cases hgives.head hgives' rfl
      exact ⟨rfl, rfl⟩
    · cases hgives.head hgives' rfl
  · rcases h' with ⟨e', rfl, rfl⟩ | ⟨begun', body', result', answer', carried', rfl, rfl⟩
    · cases hgives.head hgives' rfl
    · cases hgives.head hgives' rfl
      obtain ⟨rfl, rfl⟩ := carried.same carried' hgives.2 hgives'.2
      cases hgives.same hgives' rfl
      exact ⟨rfl, rfl⟩

section Outcome

variable {exchanges : List Exchange} {value : Except Failure β}
  (h : Atomic plan give exchanges value) (hgives : store.Gives s exchanges)

include h hgives

/-- A unit of work succeeds when the store begins it, answers every step of its plan so that no
check fails, and commits it. -/
theorem Atomic.ok_iff {b : β} :
    value = .ok b ↔ ∃ begun body done a, give a = b ∧ Carried none plan body (.ok a) ∧
      store.Gives s (⟨.begin, .ok begun⟩ :: body ++ [⟨.commit, .ok done⟩]) := by
  constructor
  · intro hvalue
    subst hvalue
    cases h with
    | committed carried => exact ⟨_, _, _, _, rfl, carried, hgives⟩
  · intro hok
    obtain ⟨begun, body, done, a, rfl, carried, hcommit⟩ := hok
    exact (h.same (.committed carried) hgives hcommit).2

theorem Atomic.error_iff {failure : Failure} :
    value = .error failure ↔
      (∃ e, failure = .transaction .begin e ∧ store.Gives s [⟨.begin, .error e⟩]) ∨
      (∃ begun body, Carried none plan body (.error failure) ∧
        store.Gives s (⟨.begin, .ok begun⟩ :: body)) ∨
      ∃ begun body a e, failure = .transaction .commit e ∧ Carried none plan body (.ok a) ∧
        store.Gives s (⟨.begin, .ok begun⟩ :: body ++ [⟨.commit, .error e⟩]) := by
  constructor
  · intro hvalue
    subst hvalue
    cases h with
    | unbegun e => exact .inl ⟨e, rfl, hgives⟩
    | uncommitted e carried => exact .inr (.inr ⟨_, _, _, e, rfl, carried, hgives⟩)
    | rolledBack answer carried => exact .inr (.inl ⟨_, _, carried, hgives.front⟩)
  · intro herror
    rcases herror with ⟨e, rfl, hbegin⟩ | ⟨begun, body, carried, hbody⟩ |
      ⟨begun, body, a, e, rfl, carried, hcommit⟩
    · exact (h.same (.unbegun e) hgives hbegin).2
    · obtain ⟨answer, hrollback⟩ := hbody.extend .rollback
      exact (h.same (.rolledBack answer carried) hgives hrollback).2
    · exact (h.same (.uncommitted e carried) hgives hcommit).2

end Outcome

end Service

end FleetTrail
