import FleetTrail.Broker.Consumer
import FleetTrail.Proofs.Service.Delivery

/-!
# The consumer, event by event

The loop begins one transaction for each event that brings readings, in the order of the events, and
ends it before the next event is received. It begins none for any other event, whatever the breaker
does and whatever became of the events before.
-/

namespace FleetTrail

namespace Store

variable {σ α : Type} (store : Responder σ)

def Request.isBegin : Request → Bool
  | .begin => true
  | .commit | .rollback | .data _ => false

/-- From one state to another, the store gives the answers of a trace, one after the other. -/
inductive Responder.Leads : σ → List Step → σ → Prop
  | done (s : σ) : Leads s [] s
  | noted {s s' : σ} {later : List Step} (entry : Note) (rest : Leads s later s') :
      Leads s (.noted entry :: later) s'
  | asked {s s' : σ} {later : List Step} (request : Request)
      (rest : Leads (store.answer s request).2 later s') :
      Leads s (.asked request (store.answer s request).1 :: later) s'
  | cleared {s s' : σ} {later : List Step} (rest : Leads (store.answer s .rollback).2 later s') :
      Leads s (.cleared (store.answer s .rollback).1 :: later) s'

variable {store} in
theorem Responder.Leads.append {s s' s'' : σ} {trace later : List Step}
    (h : store.Leads s trace s') (hlater : store.Leads s' later s'') :
    store.Leads s (trace ++ later) s'' := by
  induction h with
  | done s => exact hlater
  | noted entry rest ih => exact .noted entry (ih hlater)
  | asked request rest ih => exact .asked request (ih hlater)
  | cleared rest ih => exact .cleared (ih hlater)

theorem Session.run_leads (session : Session α) (s : σ) :
    store.Leads s (session.run store s).trace (session.run store s).state := by
  induction session generalizing s with
  | done a => exact .done s
  | note entry rest ih => exact .noted entry (ih s)
  | ask request resume ih => exact .asked request (ih _ _)

theorem Connection.clear_leads (conn : Connection σ) :
    store.Leads conn.state (conn.clear store).1 (conn.clear store).2.state := by
  rw [clear]
  split
  · exact .cleared (.done _)
  · exact .done _

theorem Session.runOn_leads (session : Session α) (conn : Connection σ) :
    let run := session.runOn store conn
    store.Leads conn.state run.trace run.state.state := by
  induction session with
  | done a => exact .done _
  | note entry rest ih => exact .noted entry ih
  | ask request resume _ => exact (conn.clear_leads store).append (run_leads store _ _)

theorem Connection.clear_exchanges (conn : Connection σ) :
    (conn.clear store).1.filterMap Step.exchange? = [] := by
  rw [clear]
  split <;> rfl

/-- On a connection, a session does what it does on the store as it finds it. -/
theorem Session.runOn_eq (session : Session α) (conn : Connection σ) :
    ∃ s, (session.runOn store conn).exchanges = (session.run store s).exchanges ∧
      (session.runOn store conn).value = (session.run store s).value := by
  induction session with
  | done a => exact ⟨conn.state, rfl, rfl⟩
  | note entry rest ih => exact ih
  | ask request resume _ =>
    refine ⟨(conn.clear store).2.state, ?_, rfl⟩
    simp only [Run.exchanges, runOn]
    rw [List.filterMap_append, Connection.clear_exchanges, List.nil_append]

end Store

namespace Service

open Store Telemetry

variable {readings : List Reading} {exchanges : List Exchange}

theorem Stored.begins_none (h : Stored readings exchanges) :
    exchanges.countP (·.request.isBegin) = 0 := by
  induction h with
  | nil => rfl
  | cons hx _ ih =>
    obtain ⟨args, reply, -, -, rfl⟩ := hx
    exact ih

theorem Halts.begins_none {index : Nat} {outcome : Outcome}
    (h : Halts index readings exchanges outcome) :
    exchanges.countP (·.request.isBegin) = 0 := by
  cases h with
  | reached split stored stops =>
    rw [List.countP_append, stored.begins_none]
    cases stops <;> rfl

theorem Ingests.begins_once {outcome : Outcome} (h : Ingests readings exchanges outcome) :
    exchanges.countP (·.request.isBegin) = 1 := by
  cases h with
  | unbegun e => rfl
  | stored all =>
    rw [List.countP_append, List.countP_cons, all.begins_none]
    rfl
  | uncommitted all e =>
    rw [List.countP_append, List.countP_cons, all.begins_none]
    rfl
  | rolledBack halts answer =>
    rw [List.countP_append, List.countP_cons, halts.begins_none]
    rfl

end Service

namespace Broker

open Store Service Telemetry

def Event.readings : Event → List Reading
  | .message payload _ _ =>
    match Batch.ofBytes payload with
    | .ok batch => batch.readings
    | .error _ => []
  | .failed _ | .empty => []

def Round.exchanges (round : Round) : List Exchange := round.trace.filterMap Step.exchange?

@[simp] theorem Round.exchanges_append (a b : Round) :
    (a.append b).exchanges = a.exchanges ++ b.exchanges := List.filterMap_append

/-- What the loop does with an event. -/
inductive Handles {σ : Type} (store : Responder σ) (event : Event) (round : Round) : Prop
  | idle (none : event.readings = []) (quiet : round.exchanges = [])
  /-- The readings are ingested, with the store in a state `s`, and that is all. -/
  | ingests {outcome : Outcome} (some : event.readings ≠ []) (s : σ)
      (ingested : round.exchanges = ((ingest event.readings).run.run store s).exchanges)
      (whole : Ingests event.readings round.exchanges outcome)

/-- The batches for which transactions are begun, one entry for each `begin`. -/
def attempts (events : List Event) (rounds : List Round) : List (List Reading) :=
  (events.zip rounds).flatMap fun (event, round) =>
    List.replicate (round.exchanges.countP (·.request.isBegin)) event.readings

section Loop

variable {σ : Type} {store : Responder σ} {event : Event} {round : Round}

theorem Handles.append (h : Handles store event round) {later : Round}
    (hquiet : later.exchanges = []) : Handles store event (round.append later) := by
  have hexchanges : (round.append later).exchanges = round.exchanges := by
    rw [Round.exchanges_append, hquiet, List.append_nil]
  cases h with
  | idle none quiet => exact .idle none (hexchanges.trans quiet)
  | ingests some s ingested whole =>
    exact .ingests some s (hexchanges.trans ingested) (hexchanges ▸ whole)

theorem coolDown_exchanges (c : Config) (b : Breaker) (conn : Connection σ) :
    (coolDown store c b conn).1.exchanges = [] := by
  rw [coolDown]
  split
  · change List.filterMap Step.exchange? (_ :: (conn.clear store).1 ++ [_]) = []
    rw [List.filterMap_append, List.filterMap_cons, Connection.clear_exchanges]
    rfl
  · rfl

theorem handle_handles (b : Breaker) (conn : Connection σ) (event : Event) :
    Handles store event (handle store b conn event).1 := by
  cases event with
  | failed text => exact .idle rfl (Connection.clear_exchanges store conn)
  | empty => exact .idle rfl rfl
  | message payload partition offset =>
    obtain ⟨s, hexchanges, -⟩ := (deliver payload).runOn_eq store conn
    have hround : (handle store b conn (.message payload partition offset)).1.exchanges =
        ((deliver payload).run store s).exchanges := by
      rw [← hexchanges, Round.exchanges, handle, List.filterMap_append]
      -- A failure is noted, and nothing is asked for it.
      cases ((deliver payload).runOn store conn).value <;> exact List.append_nil _
    cases hbatch : Batch.ofBytes payload with
    | error fault =>
      have hreadings : (Event.message payload partition offset).readings = [] := by
        rw [Event.readings, hbatch]
      exact .idle hreadings (hround.trans (deliver_undecoded hbatch).1)
    | ok batch =>
      have hreadings : (Event.message payload partition offset).readings = batch.readings := by
        rw [Event.readings, hbatch]
      rw [(deliver_decoded store s hbatch).1, ← hreadings] at hround
      by_cases hempty : (Event.message payload partition offset).readings = []
      · rw [hempty] at hround
        exact .idle hempty hround
      · obtain ⟨outcome, hingests, -⟩ := atomic_ingestPlan_iff.mp (ingest_atomic store hempty s)
        exact .ingests hempty s hround (hround ▸ hingests)

theorem coolDown_leads (c : Config) (b : Breaker) (conn : Connection σ) :
    store.Leads conn.state (coolDown store c b conn).1.trace
      (coolDown store c b conn).2.2.state := by
  rw [coolDown]
  split
  · exact .noted _ ((conn.clear_leads store).append (.noted _ (.done _)))
  · exact .done _

theorem handle_leads (b : Breaker) (conn : Connection σ) (event : Event) :
    store.Leads conn.state (handle store b conn event).1.trace
      (handle store b conn event).2.2.state := by
  cases event with
  | failed text => exact .noted _ (conn.clear_leads store)
  | empty => exact .noted _ (.done _)
  | message payload partition offset =>
    refine ((deliver payload).runOn_leads store conn).append ?_
    cases ((deliver payload).runOn store conn).value with
    | ok n => exact .done _
    | error e => exact .noted _ (.done _)

theorem rounds_lead (store : Responder σ) (c : Config) (b : Breaker) (conn : Connection σ)
    (events : List Event) :
    ∃ s', store.Leads conn.state ((rounds store c b conn events).flatMap Round.trace) s' := by
  induction events generalizing b conn with
  | nil => exact ⟨_, .done _⟩
  | cons event rest ih =>
    let handled := handle store b conn event
    let cooled := coolDown store c handled.2.1 handled.2.2
    have hround : store.Leads conn.state (handled.1.append cooled.1).trace cooled.2.2.state :=
      (handle_leads b conn event).append (coolDown_leads c _ _)
    obtain ⟨s', hrest⟩ := ih cooled.2.1 cooled.2.2
    exact ⟨s', hround.append hrest⟩

/-- Every event has a round of its own. -/
theorem rounds_handle (c : Config) (b : Breaker) (conn : Connection σ) (events : List Event) :
    List.Forall₂ (Handles store) events (rounds store c b conn events) := by
  induction events generalizing b conn with
  | nil => exact .nil
  | cons event rest ih =>
    exact .cons ((handle_handles b conn event).append (coolDown_exchanges c _ _)) (ih _ _)

theorem attempts_eq {events : List Event} {rounds : List Round}
    (h : List.Forall₂ (Handles store) events rounds) :
    attempts events rounds = (events.map Event.readings).filter (!·.isEmpty) := by
  induction h with
  | nil => rfl
  | @cons event round events rounds hround _ ih =>
    rw [attempts] at ih ⊢
    rw [List.zip_cons_cons, List.flatMap_cons, ih, List.map_cons]
    cases hround with
    | idle none quiet => simp [none, quiet]
    | ingests some s ingested whole => simp [some, whole.begins_once]

end Loop

/-- The loop handles every event in a round of its own, and begins one transaction for each event
that brings readings, in the order of the events and with one store that answers it throughout.
Events that bring none can be put in or taken out anywhere: the batches that are attempted stay the
same. -/
theorem consumer_isolates_events {σ : Type} (store : Responder σ) (c : Config) (s : σ)
    (events : List Event) :
    (∃ first later s', consume store c s events = first :: later ∧ first.exchanges = [] ∧
      List.Forall₂ (Handles store) events later ∧
      store.Leads s ((first :: later).flatMap Round.trace) s' ∧
      attempts events later = (events.map Event.readings).filter (!·.isEmpty)) ∧
    ∀ events', events'.filter (!·.readings.isEmpty) = events.filter (!·.readings.isEmpty) →
      attempts events' (consume store c s events').tail =
        attempts events (consume store c s events).tail := by
  have hrounds (events : List Event) :
      List.Forall₂ (Handles store) events (consume store c s events).tail :=
    rounds_handle c _ _ events
  constructor
  · let start := coolDown store c (Breaker.closed c.maxRetries) ⟨s, false⟩
    have hquiet : start.1.exchanges = [] := coolDown_exchanges c _ _
    have hstart : store.Leads s start.1.trace start.2.2.state :=
      coolDown_leads c (Breaker.closed c.maxRetries) ⟨s, false⟩
    obtain ⟨s', hlater⟩ := rounds_lead store c start.2.1 start.2.2 events
    refine ⟨Round.append _ start.1, _, s', rfl, ?_, hrounds events, ?_,
      attempts_eq (hrounds events)⟩
    · rw [Round.exchanges_append, hquiet, List.append_nil]
      rfl
    · exact .noted _ (.noted _ (hstart.append hlater))
  · intro events' h
    rw [attempts_eq (hrounds events'), attempts_eq (hrounds events)]
    rw [List.filter_map, List.filter_map]
    exact congrArg (List.map Event.readings) h

end Broker

end FleetTrail
