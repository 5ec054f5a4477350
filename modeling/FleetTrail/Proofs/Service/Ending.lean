import FleetTrail.Proofs.Service.Replies
import FleetTrail.Proofs.Store.Locking
import Mathlib.Logic.Relation

/-!
# A trip that many calls want to end

Any number of calls want to end one active trip. Their statements interleave in any order, any of
them may fail, and a connection may be lost at any time. A call stands at one of a few places of its
plan, and each place fixes what its transaction can have done so far (`Place.Fits`). Only one
transaction holds the row of the trip, and between the lock and the commit the trip stays active, so
at most one call completes it. Afterwards the trip stays as it is, and a call that is shown the
completed trip withdraws.
-/

namespace FleetTrail.Service

open Store Trip Telemetry

structure Caller where
  driver : Int64
  company : Option Int64

/-- The store and the calls, each with what it still has to do. -/
structure World (ι : Type) where
  table : Table ι
  calls : ι → Session (Except Failure Unit)
  /-- Who asked what and was answered how, latest first. -/
  history : List (ι × Exchange)

def World.start {ι : Type} (trip : Int64) (record : TripRecord) (callers : ι → Caller) :
    World ι where
  table := ⟨record, fun _ => none⟩
  calls := fun i => (endTrip trip (callers i).driver (callers i).company).run
  history := []

/-- One step of one call, or the loss of a connection. -/
inductive World.Step {ι : Type} [DecidableEq ι] (trip : Int64) (w : World ι) : World ι → Prop
  | notes {i : ι} {entry : Note} {rest : Session (Except Failure Unit)}
      (here : w.calls i = .note entry rest) :
      World.Step trip w { w with calls := Function.update w.calls i rest }
  | exchanges {i : ι} {request : Request} {resume : Answer → Session (Except Failure Unit)}
      {answer : Answer} {table : Table ι} (here : w.calls i = .ask request resume)
      (served : Serves trip i w.table request answer table) :
      World.Step trip w
        ⟨table, Function.update w.calls i (resume answer), (i, ⟨request, answer⟩) :: w.history⟩
  /-- The store rolls a transaction back on its own. -/
  | drops (i : ι) : World.Step trip w { w with table := w.table.set i none }

def World.Reaches {ι : Type} [DecidableEq ι] (trip : Int64) : World ι → World ι → Prop :=
  Relation.ReflTransGen (World.Step trip)

def committer? {ι : Type} : ι × Exchange → Option ι
  | (i, ⟨.commit, .ok _⟩) => some i
  | _ => none

def World.committers {ι : Type} (w : World ι) : List ι := w.history.filterMap committer?

/-- A call was told that it completed the trip with a snapshot. -/
def Passed {ι : Type} (trip : Int64) (history : List (ι × Exchange)) (i : ι)
    (snapshot : Json.Value) : Prop :=
  ∃ reply : Reply, reply.affected = 1 ∧
    (i, ⟨.data (completeStatement trip snapshot), .ok reply⟩) ∈ history

/-- Whatever it is answered, a session asks for nothing but rollbacks and gives `result`. -/
def Withdraws {α : Type} (result : α) : Session α → Prop
  | .done a => a = result
  | .note _ rest => Withdraws result rest
  | .ask request resume => request = .rollback ∧ ∀ answer, Withdraws result (resume answer)

/-- What is left of a plan once the trip is complete for its transaction. -/
def completePlan (trip : Int64) (samples : List Sample) : Plan Nat :=
  .step .completeTrip (completeStatement trip (snapshot samples)) fun reply =>
    .require (completedOne trip reply) fun _ => .finish samples.length

/-- What is left of a plan once the trip is locked and known to be active. -/
def loadPlan (trip : Int64) : Plan Nat :=
  .step .loadTripTelemetry (readStatement trip) fun reply =>
    .require (reply.rows.mapM readTripSample) (completePlan trip)

/-- Where a call stands. -/
inductive Place where
  | start
  | lock
  | load
  | complete (samples : List Sample)
  | commit (samples : Nat)
  | rollback (failure : Failure)
  /-- Nothing is asked any more. -/
  | ended (notes : List Note) (result : Except Failure Unit)

section Places

variable (trip : Int64) (c : Caller)

def endedNote (samples : Nat) : Note :=
  ⟨.info, "Ended trip " ++ Number.intText trip.toInt ++ " for driver " ++
    Number.intText c.driver.toInt ++ " with " ++ Number.natText samples ++
    " telemetry sample(s) in snapshot"⟩

def refusedNote : Note :=
  ⟨.warn, "End of trip " ++ Number.intText trip.toInt ++ " refused for driver " ++
    Number.intText c.driver.toInt ++ " (company " ++ idText c.company ++ ")"⟩

def rollbackNote (failure : Failure) (e : StoreError) : Note :=
  ⟨.warn, "Rollback failed after '" ++ failure.message ++ "': " ++ e.message⟩

def failureNotes : Failure → List Note
  | .notFoundOrForbidden => [refusedNote trip c]
  | _ => []

def conclude : Except Failure Nat → Session (Except Failure Unit)
  | .ok samples => .note (endedNote trip c samples) (.done (.ok ()))
  | .error failure => (failureNotes trip c failure).foldr .note (.done (.error failure))

/-- A call that has the steps of `plan` before it. -/
def closing (plan : Plan Nat) : Session (Except Failure Unit) :=
  plan.session.bind fun result => (settle result).bind (conclude trip c)

namespace Place

/-- What a call has still to do at a place. -/
def session : Place → Session (Except Failure Unit)
  | .start => (endTrip trip c.driver c.company).run
  | .lock => closing trip c (closePlan trip c.driver)
  | .load => closing trip c (loadPlan trip)
  | .complete samples => closing trip c (completePlan trip samples)
  | .commit samples => closing trip c (.finish samples)
  | .rollback failure => closing trip c (.fail failure)
  | .ended notes result => notes.foldr .note (.done result)

def request? : Place → Option Request
  | .start => some .begin
  | .lock => some (.data (lockStatement trip))
  | .load => some (.data (readStatement trip))
  | .complete samples => some (.data (completeStatement trip (snapshot samples)))
  | .commit _ => some .commit
  | .rollback _ => some .rollback
  | .ended _ _ => none

def checked {α : Type} (result : Except Failure α) (next : α → Place) : Place :=
  match result with
  | .ok a => next a
  | .error failure => .rollback failure

def answered : Place → Answer → Place
  | .start, .ok _ => .lock
  | .start, .error e => .ended [] (.error (.transaction .begin e))
  | .lock, .ok reply =>
    checked (ownedStatus c.driver reply) fun status =>
      checked (checkActive trip status) fun _ => .load
  | .lock, .error e => .rollback (.transaction .lockTrip e)
  | .load, .ok reply => checked (reply.rows.mapM readTripSample) .complete
  | .load, .error e => .rollback (.transaction .loadTripTelemetry e)
  | .complete samples, .ok reply =>
    checked (completedOne trip reply) fun _ => .commit samples.length
  | .complete _, .error e => .rollback (.transaction .completeTrip e)
  | .commit samples, .ok _ => .ended [endedNote trip c samples] (.ok ())
  | .commit _, .error e => .ended [] (.error (.transaction .commit e))
  | .rollback failure, .ok _ => .ended (failureNotes trip c failure) (.error failure)
  | .rollback failure, .error e =>
    .ended (rollbackNote failure e :: failureNotes trip c failure) (.error failure)
  | .ended notes result, _ => .ended notes result

end Place

theorem endTrip_run : (endTrip trip c.driver c.company).run = .ask .begin fun
    | .ok _ => closing trip c (closePlan trip c.driver)
    | .error e => .done (.error (.transaction .begin e)) := by
  refine congrArg (Session.ask .begin) (funext fun answer => ?_)
  cases answer with
  | error e => rfl
  | ok reply =>
    have hplan : (closeTrip trip c.driver).run = (closePlan trip c.driver).session :=
      closeTrip_follows trip c.driver
    rw [closing, ← hplan]
    refine ((congrArg (Session.bind · _) (Session.bind_assoc _ _ _)).trans
      (Session.bind_assoc _ _ _)).trans ?_
    refine congrArg (Session.bind _) (funext fun result => ?_)
    refine (Session.bind_assoc _ _ _).trans (congrArg (Session.bind _) (funext fun settled => ?_))
    cases settled with
    | ok samples => rfl
    | error failure => cases failure <;> rfl

theorem closing_step (phase : Phase) (statement : Statement) (next : Reply → Plan Nat) :
    closing trip c (.step phase statement next) = .ask (.data statement) fun
      | .ok reply => closing trip c (next reply)
      | .error e => closing trip c (.fail (.transaction phase e)) := by
  rw [closing, Plan.session, Session.bind]
  refine congrArg (Session.ask _) (funext fun answer => ?_)
  cases answer <;> rfl

namespace Place

theorem session_checked {α : Type} (result : Except Failure α) (next : α → Place)
    (plan : α → Plan Nat) (h : ∀ a, (next a).session trip c = closing trip c (plan a)) :
    (checked result next).session trip c = closing trip c (.require result plan) := by
  cases result with
  | ok a => exact h a
  | error failure => rfl

/-- A call asks what its place asks, and an answer takes it to the next place. -/
theorem session_eq {p : Place} {request : Request} (h : p.request? trip = some request) :
    p.session trip c = .ask request fun answer => (p.answered trip c answer).session trip c := by
  cases p with
  | start =>
    cases h
    refine (endTrip_run trip c).trans (congrArg (Session.ask _) (funext fun answer => ?_))
    cases answer <;> rfl
  | lock =>
    cases h
    refine (closing_step trip c _ _ _).trans (congrArg (Session.ask _) (funext fun answer => ?_))
    cases answer with
    | error e => rfl
    | ok reply =>
      exact (session_checked trip c _ _ _ fun status =>
        session_checked trip c _ _ _ fun _ => rfl).symm
  | load =>
    cases h
    refine (closing_step trip c _ _ _).trans (congrArg (Session.ask _) (funext fun answer => ?_))
    cases answer with
    | error e => rfl
    | ok reply => exact (session_checked trip c _ _ _ fun samples => rfl).symm
  | complete samples =>
    cases h
    refine (closing_step trip c _ _ _).trans (congrArg (Session.ask _) (funext fun answer => ?_))
    cases answer with
    | error e => rfl
    | ok reply => exact (session_checked trip c _ _ _ fun _ => rfl).symm
  | commit samples =>
    cases h
    refine congrArg (Session.ask _) (funext fun answer => ?_)
    cases answer <;> rfl
  | rollback failure =>
    cases h
    refine congrArg (Session.ask _) (funext fun answer => ?_)
    cases answer <;> rfl
  | ended notes result => cases h

theorem asks {p : Place} {request : Request} {resume : Answer → Session (Except Failure Unit)}
    (h : p.session trip c = .ask request resume) :
    p.request? trip = some request ∧
      ∀ answer, resume answer = (p.answered trip c answer).session trip c := by
  cases hrequest : p.request? trip with
  | none =>
    cases p with
    | ended notes result => cases notes <;> cases h
    | start | lock | load | complete | commit | rollback => cases hrequest
  | some asked =>
    rw [session_eq trip c hrequest] at h
    cases h
    exact ⟨rfl, fun _ => rfl⟩

theorem notes {p : Place} {entry : Note} {rest : Session (Except Failure Unit)}
    (h : p.session trip c = .note entry rest) :
    ∃ later result, p = .ended (entry :: later) result ∧
      rest = (Place.ended later result).session trip c := by
  cases hrequest : p.request? trip with
  | some asked =>
    rw [session_eq trip c hrequest] at h
    cases h
  | none =>
    cases p with
    | start | lock | load | complete | commit | rollback => cases hrequest
    | ended notes result =>
      cases notes with
      | nil => cases h
      | cons first later =>
        cases h
        exact ⟨later, result, rfl, rfl⟩

end Place

end Places

section Invariant

variable {ι : Type} {trip : Int64} {c : Caller} {owner : Option Int64} {i : ι}
  {history : List (ι × Exchange)} {status : Status} {txn : Option Txn}

/-- What is known of a call at a place: whose trip it is, what it was told, and what its open
transaction holds and has written while the committed trip has the given status. -/
def Place.Fits (trip : Int64) (owner : Option Int64) (c : Caller) (i : ι)
    (history : List (ι × Exchange)) (status : Status) (txn : Option Txn) : Place → Prop
  | .start => True
  | .lock => ∀ o ∈ txn, o.written = none
  | .load | .complete _ =>
    owner = some c.driver ∧ ∀ o ∈ txn, o.written = none ∧ o.holds = true ∧ status = .active
  | .commit _ =>
    owner = some c.driver ∧ ∃ snapshot, Passed trip history i snapshot ∧
      ∀ o ∈ txn, o.written = some snapshot ∧ o.holds = true ∧ status = .active
  | .rollback _ => True
  | .ended _ (.ok _) => i ∈ history.filterMap committer?
  | .ended _ (.error _) => True

theorem Passed.later {snapshot : Json.Value} {x : ι × Exchange}
    (h : Passed trip history i snapshot) : Passed trip (x :: history) i snapshot := by
  obtain ⟨reply, hcounted, hmem⟩ := h
  exact ⟨reply, hcounted, List.mem_cons_of_mem x hmem⟩

theorem mem_committers_later {x : ι × Exchange} (h : i ∈ history.filterMap committer?) :
    i ∈ (x :: history).filterMap committer? := by
  rw [List.mem_filterMap] at h ⊢
  obtain ⟨y, hy, hi⟩ := h
  exact ⟨y, List.mem_cons_of_mem x hy, hi⟩

/-- A call stays where it is while others go on, if the status of the trip does not change under a
transaction that holds the row. -/
theorem Place.Fits.later {p : Place} {status' : Status} {x : ι × Exchange}
    (h : p.Fits trip owner c i history status txn)
    (hstatus : ∀ o ∈ txn, o.holds = true → status' = status) :
    p.Fits trip owner c i (x :: history) status' txn := by
  have hkept {written : Option Json.Value}
      (hall : ∀ o ∈ txn, o.written = written ∧ o.holds = true ∧ status = .active) :
      ∀ o ∈ txn, o.written = written ∧ o.holds = true ∧ status' = .active := by
    intro o ho
    obtain ⟨hwritten, hholds, hactive⟩ := hall o ho
    exact ⟨hwritten, hholds, (hstatus o ho hholds).trans hactive⟩
  cases p with
  | start | lock | rollback => exact h
  | load | complete => exact ⟨h.1, hkept h.2⟩
  | commit samples =>
    obtain ⟨howner, snapshot, hpassed, hall⟩ := h
    exact ⟨howner, snapshot, hpassed.later, hkept hall⟩
  | ended notes result =>
    cases result with
    | ok _ => exact mem_committers_later h
    | error _ => trivial

theorem Place.Fits.dropped {p : Place} (h : p.Fits trip owner c i history status txn) :
    p.Fits trip owner c i history status none := by
  have hnone {P : Txn → Prop} : ∀ o ∈ (none : Option Txn), P o := fun _ ho => nomatch ho
  cases p with
  | start | rollback => trivial
  | lock => exact hnone
  | load | complete => exact ⟨h.1, hnone⟩
  | commit samples =>
    obtain ⟨howner, snapshot, hpassed, -⟩ := h
    exact ⟨howner, snapshot, hpassed, hnone⟩
  | ended notes result => cases result <;> exact h

theorem Place.Fits.checked {α : Type} {result : Except Failure α} {next : α → Place}
    (h : ∀ a, result = .ok a → (next a).Fits trip owner c i history status txn) :
    (Place.checked result next).Fits trip owner c i history status txn := by
  cases result with
  | ok a => exact h a rfl
  | error failure => trivial

theorem ownedStatus_locked_iff {r : TripRecord} {reply : Reply} {driver : Int64} {text : String}
    (hrows : reply.rows = [r.locked]) :
    ownedStatus driver reply = .ok text ↔ r.owner = some driver ∧ text = r.status.text := by
  have howner : r.locked.cell "driver_id" = .ofOption .int r.owner := by
    obtain ⟨owner, deleted, status, snapshot⟩ := r
    cases owner <;> rfl
  have hstatus : r.locked.cell "status" = .text r.status.text := rfl
  rw [ownedStatus_eq_ok_iff]
  simp only [Shows, hrows, List.cons.injEq]
  constructor
  · intro h
    obtain ⟨_, _, ⟨rfl, rfl⟩, hdriver, htext⟩ := h
    rw [howner] at hdriver
    rw [hstatus] at htext
    cases howner' : r.owner with
    | none => simp [howner', Cell.ofOption] at hdriver
    | some owner => simp_all [Cell.ofOption]
  · intro h
    obtain ⟨hdriver, rfl⟩ := h
    exact ⟨_, _, ⟨rfl, rfl⟩, by rw [howner, hdriver]; rfl, hstatus⟩

theorem checkActive_ok {s : Status} (h : checkActive trip s.text = .ok ()) : s = .active := by
  cases s with
  | active => rfl
  | completed => cases h

variable [DecidableEq ι] {t t' : Table ι} {request : Request} {answer : Answer}

theorem Place.Fits.answered {p : Place}
    (h : p.Fits trip t.row.owner c i history t.row.status (t.txn i))
    (hrequest : p.request? trip = some request) (hserved : Serves trip i t request answer t') :
    (p.answered trip c answer).Fits trip t.row.owner c i ((i, ⟨request, answer⟩) :: history)
      t'.row.status (t'.txn i) := by
  cases p with
  | start =>
    cases hrequest
    cases answer with
    | error e => trivial
    | ok reply =>
      rw [hserved.of_begin, Table.set_txn_same]
      rintro _ ⟨⟩
      rfl
  | lock =>
    cases hrequest
    cases answer with
    | error e => trivial
    | ok reply =>
      refine .checked fun text howned => .checked fun _ hactive => ?_
      obtain ⟨txn, htxn, -, hshown, rfl⟩ | ⟨hshown, -⟩ := hserved.of_lock
      · obtain ⟨howner, rfl⟩ := (ownedStatus_locked_iff hshown).mp howned
        refine ⟨howner, ?_⟩
        rw [Table.set_txn_same]
        rintro _ ⟨⟩
        exact ⟨h txn htxn, rfl, checkActive_ok hactive⟩
      · rw [ownedStatus, hshown] at howned
        cases howned
  | load =>
    cases hrequest
    cases answer with
    | error e => trivial
    | ok reply =>
      refine .checked fun samples _ => ?_
      obtain rfl := hserved.of_read
      exact h
  | complete samples =>
    cases hrequest
    cases answer with
    | error e => trivial
    | ok reply =>
      refine .checked fun _ hone => ?_
      obtain ⟨txn, htxn, hcounted, rfl⟩ | ⟨hcounted, -⟩ := hserved.of_complete
      · obtain ⟨howner, hall⟩ := h
        refine ⟨howner, _, ⟨reply, hcounted, List.mem_cons_self⟩, ?_⟩
        rw [Table.set_txn_same]
        rintro _ ⟨⟩
        exact ⟨rfl, (hall txn htxn).2⟩
      · exact absurd (completedOne_eq_ok_iff.mp hone) hcounted
  | commit samples =>
    cases hrequest
    cases answer with
    | error e => trivial
    | ok reply => exact List.mem_cons_self
  | rollback failure =>
    cases hrequest
    cases answer <;> trivial
  | ended notes result => cases hrequest

end Invariant

section Worlds

variable {ι : Type} {trip : Int64} {record : TripRecord} {callers : ι → Caller} {w w' : World ι}

/-- What has become of the trip: nothing was committed and it is as it was, or the one call whose
commit succeeded has completed it with the snapshot it had written. -/
def World.Fate (trip : Int64) (record : TripRecord) (callers : ι → Caller) (w : World ι) : Prop :=
  (w.table.row = record ∧ w.committers = []) ∨
    ∃ i snapshot, w.table.row = record.complete snapshot ∧ w.committers = [i] ∧
      Passed trip w.history i snapshot ∧ record.owner = some (callers i).driver

structure World.Sound (trip : Int64) (record : TripRecord) (callers : ι → Caller) (w : World ι) :
    Prop where
  /-- The row is held by one transaction at most. -/
  alone : ∀ i j, w.table.Holds i → w.table.Holds j → i = j
  stands : ∀ i, ∃ p : Place, w.calls i = p.session trip (callers i) ∧
    p.Fits trip record.owner (callers i) i w.history w.table.row.status (w.table.txn i)
  fate : w.Fate trip record callers

theorem World.Fate.owner (h : w.Fate trip record callers) : w.table.row.owner = record.owner := by
  obtain ⟨hrow, -⟩ | ⟨i, snapshot, hrow, -⟩ := h
  · rw [hrow]
  · rw [hrow]
    rfl

theorem World.sound_start : (World.start trip record callers).Sound trip record callers where
  alone := fun _ _ ⟨_, htxn, _⟩ _ => nomatch htxn
  stands := fun _ => ⟨.start, rfl, trivial⟩
  fate := .inl ⟨rfl, rfl⟩

theorem World.Fate.later {x : ι × Exchange} (h : w.Fate trip record callers)
    (hrow : w'.table.row = w.table.row) (hhistory : w'.history = x :: w.history)
    (hx : committer? x = none) : w'.Fate trip record callers := by
  have hcommitters : w'.committers = w.committers := by
    rw [World.committers, hhistory, List.filterMap_cons_none hx]
    rfl
  rw [World.Fate, hrow, hcommitters, hhistory]
  obtain hnone | ⟨i, snapshot, hcompleted, honly, hpassed, howner⟩ := h
  · exact .inl hnone
  · exact .inr ⟨i, snapshot, hcompleted, honly, hpassed.later, howner⟩

theorem World.Sound.only (h : w.Sound trip record callers) {i j : ι} (hi : i ∈ w.committers)
    (hj : j ∈ w.committers) : i = j := by
  obtain ⟨-, hnone⟩ | ⟨k, _, -, honly, -⟩ := h.fate
  · rw [hnone] at hi
    cases hi
  · rw [honly, List.mem_singleton] at hi hj
    rw [hi, hj]

theorem World.Sound.owner_of_committer (h : w.Sound trip record callers) {i : ι}
    (hi : i ∈ w.committers) : record.owner = some (callers i).driver := by
  obtain ⟨-, hnone⟩ | ⟨k, _, -, honly, -, howner⟩ := h.fate
  · rw [hnone] at hi
    cases hi
  · rw [honly, List.mem_singleton] at hi
    rwa [hi]

theorem World.Sound.committed_of_done (h : w.Sound trip record callers) {i : ι}
    (hdone : w.calls i = .done (.ok ())) : i ∈ w.committers := by
  obtain ⟨p, hp, hfits⟩ := h.stands i
  cases hrequest : p.request? trip with
  | some request =>
    rw [hdone, Place.session_eq trip (callers i) hrequest] at hp
    cases hp
  | none =>
    cases p with
    | start | lock | load | complete | commit | rollback => cases hrequest
    | ended notes result =>
      rw [hdone] at hp
      cases notes with
      | cons => cases hp
      | nil =>
        cases hp
        exact hfits

theorem World.Sound.completed_iff (h : w.Sound trip record callers)
    (hactive : record.status = .active) :
    w.table.row.status = .completed ↔ ∃ i snapshot, w.committers = [i] ∧
      Passed trip w.history i snapshot ∧ w.table.row.snapshot = some snapshot := by
  obtain ⟨hrow, hnone⟩ | ⟨k, written, hrow, honly, hpassed, -⟩ := h.fate
  · rw [hrow, hnone, hactive]
    constructor
    · intro hcompleted
      cases hcompleted
    · rintro ⟨i, snapshot, hone, -⟩
      cases hone
  · rw [hrow]
    exact ⟨fun _ => ⟨k, written, honly, hpassed, rfl⟩, fun _ => rfl⟩

variable [DecidableEq ι]

theorem quiet_or_commit {i : ι} {t t' : Table ι} {request : Request} {answer : Answer}
    (hserved : Serves trip i t request answer t') :
    (t'.row = t.row ∧ committer? (i, ⟨request, answer⟩) = none) ∨
      ∃ reply, request = .commit ∧ answer = .ok reply := by
  cases answer with
  | error e => exact .inl ⟨congrArg Table.row hserved.of_error, by cases request <;> rfl⟩
  | ok reply =>
    by_cases hr : request = .commit
    · exact .inr ⟨reply, hr, rfl⟩
    · refine .inl ⟨hserved.row_eq hr, ?_⟩
      cases request <;> first | rfl | exact absurd rfl hr

/-- A commit that succeeds finds the trip active and held by its own transaction. -/
theorem World.Sound.commits {i : ι} {resume : Answer → Session (Except Failure Unit)}
    {reply : Reply} {table : Table ι} (h : w.Sound trip record callers)
    (here : w.calls i = .ask .commit resume)
    (hserved : Serves trip i w.table .commit (.ok reply) table) :
    w.table.Holds i ∧ w.table.row.status = .active ∧ record.owner = some (callers i).driver ∧
      ∃ snapshot, table.row = w.table.row.complete snapshot ∧ Passed trip w.history i snapshot := by
  obtain ⟨p, hp, hfits⟩ := h.stands i
  obtain ⟨hrequest, -⟩ := Place.asks trip (callers i) (hp.symm.trans here)
  obtain ⟨txn, htxn, rfl⟩ := hserved.of_commit
  cases p with
  | commit samples =>
    obtain ⟨howner, snapshot, hpassed, hall⟩ := hfits
    obtain ⟨hwritten, hholds, hstatus⟩ := hall txn htxn
    refine ⟨⟨txn, htxn, hholds⟩, hstatus, howner, snapshot, ?_, hpassed⟩
    rw [Table.commit, hwritten, Option.elim_some]
  | start | lock | load | complete | rollback | ended => cases hrequest

theorem World.Sound.exchange {i : ι} {request : Request}
    {resume : Answer → Session (Except Failure Unit)} {answer : Answer} {table : Table ι}
    (h : w.Sound trip record callers)
    (here : w.calls i = .ask request resume)
    (hserved : Serves trip i w.table request answer table) :
    World.Sound trip record callers
      ⟨table, Function.update w.calls i (resume answer), (i, ⟨request, answer⟩) :: w.history⟩ := by
  refine ⟨hserved.alone h.alone, fun j => ?_, ?_⟩
  · by_cases hj : j = i
    · subst hj
      obtain ⟨p, hp, hfits⟩ := h.stands j
      obtain ⟨hrequest, hresume⟩ := Place.asks trip (callers j) (hp.symm.trans here)
      refine ⟨p.answered trip (callers j) answer, ?_, ?_⟩
      · exact (Function.update_self ..).trans (hresume answer)
      · rw [← h.fate.owner] at hfits ⊢
        exact hfits.answered hrequest hserved
    · obtain ⟨q, hq, hqfits⟩ := h.stands j
      refine ⟨q, (Function.update_of_ne hj ..).trans hq, ?_⟩
      rw [hserved.txn_other hj]
      refine hqfits.later fun o ho hholds => ?_
      obtain ⟨hrow, -⟩ | ⟨reply, rfl, rfl⟩ := quiet_or_commit hserved
      · rw [hrow]
      · exact absurd (h.alone j i ⟨o, ho, hholds⟩ (h.commits here hserved).1) hj
  · obtain ⟨hrow, hquiet⟩ | ⟨reply, rfl, rfl⟩ := quiet_or_commit hserved
    · exact h.fate.later hrow rfl hquiet
    · obtain ⟨-, hstatus, howner, snapshot, hrow, hpassed⟩ := h.commits here hserved
      obtain ⟨hrecord, hnone⟩ | ⟨_, _, hrecord, -⟩ := h.fate
      · rw [hrecord] at hrow
        exact .inr ⟨i, snapshot, hrow, congrArg (i :: ·) hnone, hpassed.later, howner⟩
      · rw [hrecord] at hstatus
        cases hstatus

theorem World.Sound.step (h : w.Sound trip record callers) (hstep : w.Step trip w') :
    w'.Sound trip record callers := by
  cases hstep with
  | exchanges here hserved => exact h.exchange here hserved
  | @notes i entry rest here =>
    refine ⟨h.alone, fun j => ?_, h.fate⟩
    obtain ⟨p, hp, hfits⟩ := h.stands j
    by_cases hj : j = i
    · subst hj
      obtain ⟨later, result, rfl, hrest⟩ := Place.notes trip (callers j) (hp.symm.trans here)
      refine ⟨.ended later result, (Function.update_self ..).trans hrest, ?_⟩
      cases result <;> exact hfits
    · exact ⟨p, (Function.update_of_ne hj ..).trans hp, hfits⟩
  | drops i =>
    refine ⟨fun j k hj hk => h.alone j k hj.of_set_none hk.of_set_none, fun j => ?_, h.fate⟩
    obtain ⟨p, hp, hfits⟩ := h.stands j
    refine ⟨p, hp, ?_⟩
    by_cases hj : j = i
    · subst hj
      rw [Table.set_txn_same]
      exact hfits.dropped
    · rw [Table.set_txn_other _ hj]
      exact hfits

theorem World.Sound.run (h : w.Sound trip record callers) (hrun : World.Reaches trip w w') :
    w'.Sound trip record callers := by
  induction hrun with
  | refl => exact h
  | tail _ hstep ih => exact ih.step hstep

theorem World.Sound.step_completed (h : w.Sound trip record callers)
    (hcompleted : w.table.row.status = .completed) (hstep : w.Step trip w') :
    w'.table.row = w.table.row ∧ w'.committers = w.committers := by
  cases hstep with
  | notes here => exact ⟨rfl, rfl⟩
  | drops i => exact ⟨rfl, rfl⟩
  | exchanges here hserved =>
    obtain ⟨hrow, hquiet⟩ | ⟨reply, rfl, rfl⟩ := quiet_or_commit hserved
    · exact ⟨hrow, List.filterMap_cons_none hquiet⟩
    · obtain ⟨-, hactive, -⟩ := h.commits here hserved
      rw [hcompleted] at hactive
      cases hactive

theorem World.Sound.run_completed (h : w.Sound trip record callers)
    (hcompleted : w.table.row.status = .completed) (hrun : World.Reaches trip w w') :
    w'.table.row = w.table.row ∧ w'.committers = w.committers := by
  induction hrun with
  | refl => exact ⟨rfl, rfl⟩
  | tail hbefore hstep ih =>
    obtain ⟨hrow, hcommitters⟩ := ih
    rw [← hrow, ← hcommitters]
    exact (h.run hbefore).step_completed (hrow ▸ hcompleted) hstep

theorem World.Step.withdraws {i : ι} {result : Except Failure Unit} (hstep : w.Step trip w')
    (h : Withdraws result (w.calls i)) : Withdraws result (w'.calls i) := by
  cases hstep with
  | drops j => exact h
  | @notes j entry rest here =>
    by_cases hi : i = j
    · subst hi
      rw [here] at h
      simp only [Function.update_self]
      exact h
    · simp only [Function.update_of_ne hi]
      exact h
  | @exchanges j request resume answer table here hserved =>
    by_cases hi : i = j
    · subst hi
      rw [here] at h
      simp only [Function.update_self]
      exact h.2 answer
    · simp only [Function.update_of_ne hi]
      exact h

theorem Place.withdraws_rollback (c : Caller) (failure : Failure) :
    Withdraws (.error failure) (Place.session trip c (.rollback failure)) := by
  have hover (notes : List Note) :
      Withdraws (.error failure) (Place.session trip c (.ended notes (.error failure))) := by
    induction notes with
    | nil => rfl
    | cons entry later ih => exact ih
  rw [Place.session_eq (p := .rollback failure) trip c rfl]
  refine ⟨rfl, fun answer => ?_⟩
  cases answer <;> exact hover _

/-- A call whose lock shows the completed trip, or no trip, withdraws. -/
theorem World.Sound.withdraws_of_lock (h : w.Sound trip record callers)
    (hcompleted : w.table.row.status = .completed) (hstep : w.Step trip w') {i : ι} {reply : Reply}
    (howner : record.owner = some (callers i).driver)
    (hlock : w'.history = (i, ⟨.data (lockStatement trip), .ok reply⟩) :: w.history) :
    ∃ failure, (failure = .conflict (.alreadyCompleted trip) ∨
      reply.rows = [] ∧ failure = .notFoundOrForbidden) ∧
      Withdraws (.error failure) (w'.calls i) := by
  cases hstep with
  | notes here => exact absurd hlock.symm (List.cons_ne_self _ _)
  | drops j => exact absurd hlock.symm (List.cons_ne_self _ _)
  | @exchanges j request resume answer table here hserved =>
    simp only [List.cons.injEq, Prod.mk.injEq, Exchange.mk.injEq, and_true] at hlock
    obtain ⟨rfl, rfl, rfl⟩ := hlock
    obtain ⟨p, hp, -⟩ := h.stands j
    obtain ⟨hrequest, hresume⟩ := Place.asks trip (callers j) (hp.symm.trans here)
    have hlast (failure : Failure)
        (hp : p.answered trip (callers j) (.ok reply) = .rollback failure) :
        Withdraws (.error failure) (Function.update w.calls j (resume (.ok reply)) j) := by
      rw [Function.update_self, hresume, hp]
      exact Place.withdraws_rollback (callers j) failure
    cases p with
    | lock =>
      obtain ⟨txn, -, -, hshown, -⟩ | ⟨hshown, -⟩ := hserved.of_lock
      · refine ⟨.conflict (.alreadyCompleted trip), .inl rfl, hlast _ ?_⟩
        rw [← h.fate.owner] at howner
        rw [Place.answered, (ownedStatus_locked_iff hshown).mpr ⟨howner, rfl⟩, hcompleted]
        rfl
      · refine ⟨.notFoundOrForbidden, .inr ⟨hshown, rfl⟩, hlast _ ?_⟩
        rw [Place.answered, ownedStatus, hshown]
        rfl
    | load =>
      obtain heq : readStatement trip = lockStatement trip := by
        simpa [Place.request?] using hrequest
      exact absurd heq.symm lock_ne_read
    | complete samples =>
      obtain heq : completeStatement trip _ = lockStatement trip := by
        simpa [Place.request?] using hrequest
      exact absurd heq.symm lock_ne_complete
    | start | commit | rollback | ended => cases hrequest

theorem World.Step.history (hstep : w.Step trip w') :
    w'.history = w.history ∨ ∃ x, w'.history = x :: w.history := by
  cases hstep with
  | notes here => exact .inl rfl
  | drops i => exact .inl rfl
  | exchanges here hserved => exact .inr ⟨_, rfl⟩

/-- Every call of the owner whose lock has been answered since the trip was completed withdraws. -/
theorem World.Sound.refuses_later (h : w.Sound trip record callers)
    (hcompleted : w.table.row.status = .completed) (hrun : World.Reaches trip w w') :
    ∃ news, w'.history = news ++ w.history ∧ ∀ i reply,
      (i, ⟨.data (lockStatement trip), .ok reply⟩) ∈ news →
      record.owner = some (callers i).driver →
      ∃ failure, (failure = .conflict (.alreadyCompleted trip) ∨
        reply.rows = [] ∧ failure = .notFoundOrForbidden) ∧
        Withdraws (.error failure) (w'.calls i) := by
  induction hrun with
  | refl => exact ⟨[], rfl, fun _ _ hmem => nomatch hmem⟩
  | @tail w₁ w₂ hbefore hstep ih =>
    obtain ⟨news, hnews, hrefused⟩ := ih
    have hkept (i : ι) (reply : Reply) (hmem : (i, ⟨.data (lockStatement trip), .ok reply⟩) ∈ news)
        (howner : record.owner = some (callers i).driver) :
        ∃ failure, (failure = .conflict (.alreadyCompleted trip) ∨
          reply.rows = [] ∧ failure = .notFoundOrForbidden) ∧
          Withdraws (.error failure) (w₂.calls i) := by
      obtain ⟨failure, hfailure, hwithdraws⟩ := hrefused i reply hmem howner
      exact ⟨failure, hfailure, hstep.withdraws hwithdraws⟩
    obtain hsame | ⟨x, hx⟩ := hstep.history
    · exact ⟨news, hsame.trans hnews, hkept⟩
    · refine ⟨x :: news, by rw [hx, hnews, List.cons_append], fun i reply hmem howner => ?_⟩
      obtain rfl | hmem := List.mem_cons.mp hmem
      · have hcompleted₁ : w₁.table.row.status = .completed := by
          rw [(h.run_completed hcompleted hbefore).1, hcompleted]
        exact (h.run hbefore).withdraws_of_lock hcompleted₁ hstep howner hx
      · exact hkept i reply hmem howner

end Worlds

/-- Whatever the order of the statements, whatever fails and whoever calls, a trip that was active
is completed at most once, by its owner, and then keeps its snapshot; an owner who is shown the
completed trip afterwards is refused and commits nothing. -/
theorem trip_completes_at_most_once {ι : Type} [DecidableEq ι] (trip : Int64) (record : TripRecord)
    (callers : ι → Caller) (hactive : record.status = .active) (w : World ι)
    (hrun : World.Reaches trip (World.start trip record callers) w) :
    (∀ i, w.calls i = .done (.ok ()) → record.owner = some (callers i).driver ∧
      ∀ j, w.calls j = .done (.ok ()) → j = i) ∧
    w.committers.length ≤ 1 ∧
    (w.table.row.status = .completed ↔ ∃ i snapshot, w.committers = [i] ∧
      Passed trip w.history i snapshot ∧ w.table.row.snapshot = some snapshot) ∧
    (w.table.row.status = .completed → ∀ w', World.Reaches trip w w' →
      w'.table.row.status = .completed ∧ w'.table.row.snapshot = w.table.row.snapshot ∧
      w'.committers = w.committers ∧
      ∃ news, w'.history = news ++ w.history ∧ ∀ i reply,
        (i, ⟨.data (lockStatement trip), .ok reply⟩) ∈ news →
        record.owner = some (callers i).driver →
        ∃ failure, (failure = .conflict (.alreadyCompleted trip) ∨
          reply.rows = [] ∧ failure = .notFoundOrForbidden) ∧
          Withdraws (.error failure) (w'.calls i)) := by
  have h : w.Sound trip record callers := World.sound_start.run hrun
  refine ⟨fun i hi => ⟨h.owner_of_committer (h.committed_of_done hi), fun j hj => ?_⟩, ?_,
    h.completed_iff hactive, fun hcompleted w' hlater => ?_⟩
  · exact h.only (h.committed_of_done hj) (h.committed_of_done hi)
  · obtain ⟨-, hnone⟩ | ⟨_, _, -, honly, -⟩ := h.fate
    · simp [hnone]
    · simp [honly]
  · obtain ⟨hrow, hcommitters⟩ := h.run_completed hcompleted hlater
    rw [hrow]
    exact ⟨hcompleted, rfl, hcommitters, h.refuses_later hcompleted hlater⟩

theorem World.Reaches.answer {ι : Type} [DecidableEq ι] {trip : Int64} {start w : World ι}
    (hrun : World.Reaches trip start w) (i : ι) (c : Caller) (p : Place) (answer : Answer)
    {request : Request} {table : Table ι} (here : w.calls i = p.session trip c)
    (hrequest : p.request? trip = some request)
    (hserved : Serves trip i w.table request answer table) :
    World.Reaches trip start ⟨table,
      Function.update w.calls i ((p.answered trip c answer).session trip c),
      (i, ⟨request, answer⟩) :: w.history⟩ :=
  hrun.tail (.exchanges (here.trans (Place.session_eq trip c hrequest)) hserved)

/-- Two calls of the owner: the first completes the trip, the second is refused. -/
theorem trip_completes_at_most_once_of_two :
    ∃ w w' : World Bool,
      World.Reaches 7 (World.start 7 ⟨some 42, false, .active, none⟩ fun _ => ⟨42, none⟩) w ∧
      w.calls false = .done (.ok ()) ∧ w.committers = [false] ∧ World.Reaches 7 w w' ∧
      Withdraws (.error (.conflict (.alreadyCompleted 7))) (w'.calls true) := by
  let record : TripRecord := ⟨some 42, false, .active, none⟩
  let owner : Caller := ⟨42, none⟩
  let start : World Bool := World.start 7 record fun _ => owner
  have hbegun := World.Reaches.answer (.refl : World.Reaches 7 start start) false owner .start
    (.ok ⟨[], 0⟩) rfl rfl (.begins _)
  have hlocked := hbegun.answer false owner .lock (.ok ⟨[record.locked], 1⟩) rfl rfl
    (.locks rfl rfl rfl (by rintro (_ | _) hne ⟨txn, ⟨⟩, -⟩; exact hne rfl) rfl)
  have hread := hlocked.answer false owner .load (.ok ⟨[], 0⟩) rfl rfl (.reads _ rfl rfl)
  have hwritten := hread.answer false owner (.complete []) (.ok ⟨[], 1⟩) rfl rfl
    (.completes rfl rfl ⟨rfl, rfl⟩ rfl)
  have hcommitted := hwritten.answer false owner (.commit 0) (.ok ⟨[], 0⟩) rfl rfl (.commits _ rfl)
  have hover := hcommitted.tail (.notes (i := false) rfl)
  have hstay {w : World Bool} (_ : World.Reaches 7 start w) : World.Reaches 7 w w := .refl
  have hagain := (hstay hover).answer true owner .start (.ok ⟨[], 0⟩) rfl rfl (.begins _)
  have hshown := hagain.answer true owner .lock
    (.ok ⟨[(record.complete (snapshot [])).locked], 1⟩) rfl rfl
    (.locks rfl rfl rfl (by rintro (_ | _) hne ⟨txn, ⟨⟩, -⟩; exact hne rfl) rfl)
  obtain ⟨-, -, -, hlater⟩ := trip_completes_at_most_once 7 record (fun _ => owner) rfl _ hover
  obtain ⟨-, -, -, news, hnews, hrefused⟩ := hlater rfl _ hshown
  obtain rfl : [_, _] = news := List.append_cancel_right hnews
  obtain ⟨failure, rfl | ⟨hrows, -⟩, hwithdraws⟩ := hrefused true _ (.head _) rfl
  · exact ⟨_, _, hover, rfl, rfl, hshown, hwithdraws⟩
  · cases hrows

end FleetTrail.Service
