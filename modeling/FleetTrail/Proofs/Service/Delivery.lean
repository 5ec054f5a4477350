import FleetTrail.Proofs.Service.Answers
import FleetTrail.Proofs.Service.Atomicity
import FleetTrail.Proofs.Store.Bound
import Mathlib.Data.List.Forall2

/-!
# What becomes of a payload

The readings of a payload are inserted one after the other, in one transaction, up to the first that
is refused or affects no row. `Ingests` lists the ways in which that can go, and each of them is
reported as what it is: the batch is stored, one of its readings is rejected, or the store failed.
-/

namespace FleetTrail.Service

open Store Telemetry

/-- The values of a reading, as they are bound to its insertion: NULL for the null point, the default
for a status that is absent or blank, and of the time what the store keeps. -/
def Binds (r : Reading) (args : List Bound) : Prop :=
  ∃ point status logged,
    args = [.int r.companyId, .int (some r.vehicleId), .int (some r.driverId), .int r.offerId,
      .int r.tripId, .float r.batteryLevel, .float r.speed, .float r.heading, .float r.accuracy,
      .text point, .text (some status), .time logged] ∧
    Option.Rel Time.Instant.KeptAs r.loggedAt logged ∧
    (point = if r.coordinates.isNull then none else
      some ("POINT(" ++ Number.floatText r.coordinates.lng ++ " " ++
        Number.floatText r.coordinates.lat ++ ")")) ∧
    ((∀ text ∈ r.status, Text.allBlank text = true) ∧ status = "active" ∨
      r.status = some status ∧ Text.allBlank status = false)

inductive Outcome where
  | stored
  /-- The reading at `index` has no trip that is live. -/
  | rejected (index : Nat) (trip : Option Int64)
  | failed (phase : Phase) (e : StoreError)

/-- What ingestion makes of an outcome, `a` being its value when all is stored. -/
def Outcome.result {α : Type} (a : α) : Outcome → Except Failure α
  | .stored => .ok a
  | .rejected index trip => .error (.validation (.missingTrip index trip))
  | .failed phase e => .error (.transaction phase e)

/-- Each reading has been inserted, in its place, and affected some row. -/
def Stored : List Reading → List Exchange → Prop :=
  List.Forall₂ fun r x => ∃ args reply, Binds r args ∧ reply.affected ≠ 0 ∧
    x = ⟨.data ⟨Sql.insertTelemetry, args⟩, .ok reply⟩

/-- The insertion of the reading at `index` is refused, or it affects no row. -/
inductive Stops (index : Nat) (r : Reading) : Exchange → Outcome → Prop
  | refused {args : List Bound} (binds : Binds r args) (e : StoreError) :
      Stops index r ⟨.data ⟨Sql.insertTelemetry, args⟩, .error e⟩ (.failed .insertTelemetrySample e)
  | rejected {args : List Bound} {reply : Reply} (binds : Binds r args)
      (none : reply.affected = 0) :
      Stops index r ⟨.data ⟨Sql.insertTelemetry, args⟩, .ok reply⟩ (.rejected index r.tripId)

/-- The readings of a batch, of which the first has the number `index`, are inserted up to one that
stops the batch. -/
inductive Halts (index : Nat) (readings : List Reading) : List Exchange → Outcome → Prop
  | reached {before after : List Reading} {r : Reading} {inserts : List Exchange} {x : Exchange}
      {outcome : Outcome} (split : readings = before ++ r :: after) (stored : Stored before inserts)
      (stops : Stops (index + before.length) r x outcome) :
      Halts index readings (inserts ++ [x]) outcome

/-- The ways in which the ingestion of a batch can go. -/
inductive Ingests (readings : List Reading) : List Exchange → Outcome → Prop
  | unbegun (e : StoreError) : Ingests readings [⟨.begin, .error e⟩] (.failed .begin e)
  | stored {begun done : Reply} {inserts : List Exchange} (all : Stored readings inserts) :
      Ingests readings (⟨.begin, .ok begun⟩ :: inserts ++ [⟨.commit, .ok done⟩]) .stored
  | uncommitted {begun : Reply} {inserts : List Exchange} (all : Stored readings inserts)
      (e : StoreError) :
      Ingests readings (⟨.begin, .ok begun⟩ :: inserts ++ [⟨.commit, .error e⟩]) (.failed .commit e)
  | rolledBack {begun : Reply} {inserts : List Exchange} {outcome : Outcome}
      (halts : Halts 0 readings inserts outcome) (answer : Answer) :
      Ingests readings (⟨.begin, .ok begun⟩ :: inserts ++ [⟨.rollback, answer⟩]) outcome

theorem statusOrDefault_eq_iff {r : Reading} {status : String} :
    status = r.statusOrDefault ↔
      (∀ text ∈ r.status, Text.allBlank text = true) ∧ status = "active" ∨
        r.status = some status ∧ Text.allBlank status = false := by
  rw [Reading.statusOrDefault, defaultStatus]
  cases r.status with
  | none => simp
  | some text =>
    by_cases hblank : Text.allBlank text = true
    · have hother (h : text = status) : Text.allBlank status ≠ false := by simp [← h, hblank]
      simpa [hblank] using fun h hfalse => absurd hfalse (hother h)
    · have hfilled (h : status = text) : Text.allBlank status = false := by simpa [h] using hblank
      simp only [if_neg hblank]
      constructor
      · intro h
        exact .inr ⟨congrArg some h.symm, hfilled h⟩
      · intro h
        simp_all

theorem binds_iff {r : Reading} {args : List Bound} : Binds r args ↔ args = readingArgs r := by
  simp only [Binds, ← statusOrDefault_eq_iff, Time.Instant.rel_keptAs_iff]
  simp [readingArgs, Geo.Point.token?, Bound.ofInstant]

section Plan

variable {phase : Option Phase} {index : Nat} {result : Except Failure Unit}

/-- Readings that have been inserted leave the rest of a batch to do. -/
theorem carried_stored {before rest : List Reading} {inserts later : List Exchange}
    (hstored : Stored before inserts)
    (hrest : ∀ phase, Carried phase (ingestPlan (index + before.length) rest) later result) :
    Carried phase (ingestPlan index (before ++ rest)) (inserts ++ later) result := by
  induction hstored generalizing phase index with
  | nil => exact hrest phase
  | @cons r x before inserts hx _ ih =>
    obtain ⟨args, reply, hbinds, haffected, rfl⟩ := hx
    rw [binds_iff] at hbinds
    subst hbinds
    refine .answered (.require_ok (if_neg haffected) (ih fun phase => ?_))
    rw [Nat.add_right_comm]
    exact hrest phase

theorem carried_stops {r : Reading} {after : List Reading} {x : Exchange} {outcome : Outcome}
    (h : Stops index r x outcome) :
    Carried phase (ingestPlan index (r :: after)) [x] (outcome.result ()) := by
  cases h with
  | refused binds e =>
    rw [binds_iff] at binds
    subst binds
    exact .refused e
  | rejected binds none =>
    rw [binds_iff] at binds
    subst binds
    exact .answered (.require_error (if_pos none) trivial)

theorem Halts.cons {readings : List Reading} {body : List Exchange} {outcome : Outcome}
    (h : Halts (index + 1) readings body outcome) {r : Reading} {x : Exchange}
    (hstored : Stored [r] [x]) : Halts index (r :: readings) (x :: body) outcome := by
  cases h with
  | @reached before after r' inserts x' outcome split stored stops =>
    subst split
    rw [Nat.add_right_comm] at stops
    exact .reached rfl (List.rel_append hstored stored) stops

theorem carried_ingestPlan_iff {readings : List Reading} {body : List Exchange} :
    Carried phase (ingestPlan index readings) body result ↔
      (Stored readings body ∧ result = .ok ()) ∨
      ∃ outcome, Halts index readings body outcome ∧ result = outcome.result () := by
  constructor
  · intro h
    induction readings generalizing phase index body with
    | nil =>
      cases h
      exact .inl ⟨.nil, rfl⟩
    | cons r rest ih =>
      have hbinds : Binds r (readingArgs r) := binds_iff.mpr rfl
      cases h with
      | refused e =>
        exact .inr ⟨_, .reached rfl .nil (.refused hbinds e), rfl⟩
      | @answered _ _ _ _ reply later _ hlater =>
        by_cases haffected : reply.affected = 0
        · simp only [storedReading, if_pos haffected, Plan.require] at hlater
          cases hlater
          exact .inr ⟨_, .reached rfl .nil (.rejected hbinds haffected), rfl⟩
        · simp only [storedReading, if_neg haffected, Plan.require] at hlater
          have hstored : Stored [r] [⟨.data ⟨Sql.insertTelemetry, readingArgs r⟩, .ok reply⟩] :=
            .cons ⟨_, _, hbinds, haffected, rfl⟩ .nil
          obtain ⟨hall, rfl⟩ | ⟨outcome, hhalts, rfl⟩ := ih hlater
          · exact .inl ⟨List.rel_append hstored hall, rfl⟩
          · exact .inr ⟨outcome, hhalts.cons hstored, rfl⟩
  · intro h
    obtain ⟨hall, rfl⟩ | ⟨outcome, hhalts, rfl⟩ := h
    · rw [← List.append_nil readings, ← List.append_nil body]
      exact carried_stored hall fun phase => .finished ()
    · cases hhalts with
      | reached split stored stops =>
        subst split
        exact carried_stored stored fun phase => carried_stops stops

end Plan

section Call

variable {σ : Type} {store : Responder σ} {s : σ} {readings : List Reading}

theorem Outcome.result_injective {α : Type} (a : α) : Function.Injective (Outcome.result a) := by
  intro x y h
  cases x <;> cases y <;> simp_all [Outcome.result]

theorem Halts.settled {inserts : List Exchange} {outcome : Outcome}
    (h : Halts 0 readings inserts outcome) (n : Nat) (answer : Answer) :
    settlement (outcome.result ()) = .rollback ∧
      told (fun _ => n) (outcome.result ()) answer = outcome.result n := by
  cases h with
  | reached split stored stops => cases stops <;> exact ⟨rfl, rfl⟩

theorem atomic_ingestPlan_iff {exchanges : List Exchange} {value : Except Failure Nat} {n : Nat} :
    Atomic (ingestPlan 0 readings) (fun _ => n) exchanges value ↔
      ∃ outcome, Ingests readings exchanges outcome ∧ value = outcome.result n := by
  simp only [atomic_iff, carried_ingestPlan_iff]
  constructor
  · intro h
    obtain ⟨e, rfl, rfl⟩ | ⟨begun, body, result, answer, hbody, rfl, rfl⟩ := h
    · exact ⟨_, .unbegun e, rfl⟩
    obtain ⟨hall, rfl⟩ | ⟨outcome, hhalts, rfl⟩ := hbody
    · cases answer with
      | ok done => exact ⟨_, .stored hall, rfl⟩
      | error e => exact ⟨_, .uncommitted hall e, rfl⟩
    · obtain ⟨hsettlement, htold⟩ := hhalts.settled n answer
      rw [hsettlement]
      exact ⟨outcome, .rolledBack hhalts answer, htold⟩
  · intro h
    obtain ⟨outcome, hingests, rfl⟩ := h
    cases hingests with
    | unbegun e => exact .inl ⟨e, rfl, rfl⟩
    | stored all => exact .inr ⟨_, _, .ok (), .ok _, .inl ⟨all, rfl⟩, rfl, rfl⟩
    | uncommitted all e => exact .inr ⟨_, _, .ok (), .error e, .inl ⟨all, rfl⟩, rfl, rfl⟩
    | @rolledBack begun inserts outcome halts answer =>
      obtain ⟨hsettlement, htold⟩ := halts.settled n answer
      rw [← hsettlement]
      exact .inr ⟨begun, inserts, _, answer, .inr ⟨outcome, halts, rfl⟩, rfl, htold.symm⟩

/-- What the store answers to a batch leads to an outcome. -/
def ComesTo (store : Responder σ) (s : σ) (readings : List Reading) (outcome : Outcome) : Prop :=
  ∃ exchanges, store.Gives s exchanges ∧ Ingests readings exchanges outcome

theorem ingest_eq_iff (h : readings ≠ []) {outcome : Outcome} :
    ((ingest readings).run.run store s).value = outcome.result readings.length ↔
      ComesTo store s readings outcome := by
  have hunit := ingest_atomic store h s
  have hgives := (ingest readings).run.gives_run store s
  constructor
  · intro hvalue
    obtain ⟨outcome', hingests, hvalue'⟩ := atomic_ingestPlan_iff.mp hunit
    obtain rfl := Outcome.result_injective _ (hvalue.symm.trans hvalue')
    exact ⟨_, hgives, hingests⟩
  · intro hxs
    obtain ⟨xs, hxs, hingests⟩ := hxs
    exact (hunit.same (atomic_ingestPlan_iff.mpr ⟨outcome, hingests, rfl⟩) hgives hxs).2

/-- How the end of an ingestion is passed on: what breaks a rule is dropped. -/
def passedOn (id : BatchId) : Except Failure Nat → Except DeliveryFailure Nat
  | .ok n => .ok n
  | .error (.validation _) => .ok 0
  | .error failure => .error ⟨id, failure⟩

theorem deliver_undecoded {payload : ByteArray} {fault : BatchFault}
    (h : Batch.ofBytes payload = .error fault) :
    ((deliver payload).run store s).exchanges = [] ∧
      ((deliver payload).run store s).value = .ok 0 := by
  rw [deliver, h]
  exact ⟨rfl, rfl⟩

theorem deliver_decoded (store : Responder σ) (s : σ) {payload : ByteArray} {batch : Batch}
    (h : Batch.ofBytes payload = .ok batch) :
    ((deliver payload).run store s).exchanges =
        ((ingest batch.readings).run.run store s).exchanges ∧
      ((deliver payload).run store s).value =
        passedOn batch.id ((ingest batch.readings).run.run store s).value := by
  rw [deliver, h]
  change ((Session.bind (ingest batch.readings).run _).run store s).exchanges = _ ∧
    ((Session.bind (ingest batch.readings).run _).run store s).value = _
  rw [Session.exchanges_bind, Session.value_bind]
  generalize (ingest batch.readings).run.run store s = first
  cases hvalue : first.value with
  | ok n => exact ⟨List.append_nil _, rfl⟩
  | error failure => cases failure <;> exact ⟨List.append_nil _, rfl⟩

end Call

/-- A payload that gives no readings leaves the store alone. The readings of any other are inserted
in their order, up to the first insertion that stops the batch, and what the store answers decides
between the three ends of the call: all are stored, one is rejected, the store fails. -/
theorem delivery_classified {σ : Type} (store : Responder σ) (s : σ) (payload : ByteArray) :
    let run := (deliver payload).run store s
    (∀ fault, Batch.ofBytes payload = .error fault → run.exchanges = [] ∧ run.value = .ok 0) ∧
    ∀ batch, Batch.ofBytes payload = .ok batch →
      (∃ message, Message.ofBytes payload = .ok message ∧
        message.payloads.map Payload.reading = batch.readings.map .ok) ∧
      (batch.readings = [] → run.exchanges = [] ∧ run.value = .ok 0) ∧
      (batch.readings ≠ [] →
        (∃ outcome, Ingests batch.readings run.exchanges outcome) ∧
        (run.value = .ok batch.readings.length ↔ ComesTo store s batch.readings .stored) ∧
        (run.value = .ok 0 ↔ ∃ index trip, ComesTo store s batch.readings (.rejected index trip)) ∧
        (∀ failure, run.value = .error failure ↔ ∃ phase e,
          failure = ⟨batch.id, .transaction phase e⟩ ∧
            ComesTo store s batch.readings (.failed phase e)) ∧
        ∀ index trip, ComesTo store s batch.readings (.rejected index trip) ↔
          ((ingest batch.readings).run.run store s).value =
            .error (.validation (.missingTrip index trip))) := by
  intro run
  refine ⟨fun fault hfault => deliver_undecoded hfault, fun batch hbatch => ?_⟩
  obtain ⟨hexchanges, hvalue⟩ := deliver_decoded store s hbatch
  refine ⟨Batch.readings_of_ofBytes hbatch, ?_, ?_⟩
  · intro hempty
    rw [hexchanges, hvalue, hempty]
    exact ⟨rfl, rfl⟩
  · intro hreadings
    obtain ⟨outcome, hingests, hresult⟩ :=
      atomic_ingestPlan_iff.mp (ingest_atomic store hreadings s)
    -- The store comes to one outcome and to no other.
    have hcomes (other : Outcome) : ComesTo store s batch.readings other ↔ outcome = other := by
      rw [← ingest_eq_iff hreadings, hresult, (Outcome.result_injective _).eq_iff]
    have hlength : batch.readings.length ≠ 0 := by simpa using hreadings
    refine ⟨⟨outcome, hexchanges ▸ hingests⟩, ?_⟩
    rw [hvalue, hresult]
    simp only [hcomes]
    cases outcome with
    | stored => simp [Outcome.result, passedOn, hlength]
    | rejected index trip => simp [Outcome.result, passedOn, hlength.symm]
    | failed phase e => simp [Outcome.result, passedOn, eq_comm]

end FleetTrail.Service
