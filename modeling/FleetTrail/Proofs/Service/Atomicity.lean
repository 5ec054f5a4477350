import FleetTrail.Proofs.Service.Plan
import FleetTrail.Service.Ingestion
import FleetTrail.Service.Trips

/-!
# Units of work

The plans of the operations that write: starting a trip, ending a trip, ingesting a batch. Each
operation is a transaction around the session of its plan, so on every store it is one unit of
work: all of its steps are committed together or none is. The only calls that never begin are a
start whose list of offers is refused and an ingestion of an empty batch.
-/

namespace FleetTrail.Service

open Store Trip Telemetry

/-- A body does what a plan says. -/
def Follows {α : Type} (body : Work α) (plan : Plan α) : Prop := body.run = plan.session

namespace Follows

variable {α β : Type}

theorem pure (a : α) : Follows (pure a) (.finish a) := rfl

theorem step {phase : Phase} {sql : String} {args : List Bound} {f : Reply → Work α}
    {next : Reply → Plan α} (h : ∀ reply, Follows (f reply) (next reply)) :
    Follows (ask (.transaction phase) sql args >>= f) (.step phase ⟨sql, args⟩ next) := by
  rw [Follows, Plan.session]
  refine congrArg (Session.ask _) (funext fun answer => ?_)
  cases answer with
  | ok reply => exact h reply
  | error e => rfl

theorem check {result : Except Failure β} {f : β → Work α} {next : β → Plan α}
    (h : ∀ b, Follows (f b) (next b)) :
    Follows (Service.check result >>= f) (.require result next) := by
  cases result with
  | ok b => exact h b
  | error failure => rfl

theorem read {phase : Phase} {sql : String} {args : List Bound} {body : Work β}
    {result : Reply → Except Failure β} {f : β → Work α} {next : β → Plan α}
    (hbody : body = ask (.transaction phase) sql args >>= fun reply => Service.check (result reply))
    (h : ∀ b, Follows (f b) (next b)) :
    Follows (body >>= f) (.step phase ⟨sql, args⟩ fun reply => .require (result reply) next) := by
  rw [hbody, bind_assoc]
  exact step fun reply => check h

end Follows

theorem check_ok_bind {α β : Type} (a : α) (f : α → Work β) : check (.ok a) >>= f = f a := rfl

def primaryOf (offer : Int64) (reply : Reply) : Except Failure Offer.Defaults :=
  match reply.rows with
  | [] => .error (.offerNotFound offer)
  | row :: _ => (Offer.Defaults.ofRow row).mapError (.transaction .loadPrimaryOffer)

def tripIdOf (reply : Reply) : Except Failure Int64 :=
  match reply.rows with
  | [] => .error (.transaction .insertTrip .rowNotFound)
  | row :: _ => row.id.mapError (.transaction .insertTrip)

def linkStatement (trip : Int64) (link : OfferChoice) : Statement :=
  ⟨Sql.insertTripOffer, [.int (some trip), .int (some link.offerId), .bool link.isMain,
    .text (some (link.status.getD defaultLinkStatus))]⟩

def linkPlan (trip : Int64) : List OfferChoice → Plan Int64
  | [] => .finish trip
  | link :: rest => .step .insertTripOfferLink (linkStatement trip link) fun _ => linkPlan trip rest

def openPlan (o : Opening) (links : Links) : Plan Int64 :=
  .step .loadPrimaryOffer ⟨Sql.selectOfferDefaults, [.int (some links.primary.offerId)]⟩ fun reply =>
    .require (primaryOf links.primary.offerId reply) fun primary =>
      .require (o.draft primary) fun draft =>
        .step .insertTrip ⟨Sql.insertTrip, tripArgs draft⟩ fun reply =>
          .require (tripIdOf reply) fun trip => linkPlan trip links.toList

private theorem loadPrimary_eq (offer : Int64) :
    loadPrimary offer = ask (.transaction .loadPrimaryOffer) Sql.selectOfferDefaults
      [.int (some offer)] >>= fun reply => check (primaryOf offer reply) := by
  refine congrArg (_ >>= ·) (funext fun reply => ?_)
  simp only [primaryOf]
  cases reply.rows <;> rfl

private theorem insertTrip_eq (draft : Draft) :
    insertTrip draft = ask (.transaction .insertTrip) Sql.insertTrip (tripArgs draft) >>=
      fun reply => check (tripIdOf reply) := by
  refine congrArg (_ >>= ·) (funext fun reply => ?_)
  simp only [tripIdOf]
  cases reply.rows <;> rfl

private theorem links_follow (trip : Int64) (links : List OfferChoice) :
    Follows (links.forM (insertLink trip) >>= fun _ => pure trip) (linkPlan trip links) := by
  induction links with
  | nil => exact Follows.pure trip
  | cons link rest ih =>
    have hcons : ((link :: rest).forM (insertLink trip) : Work Unit) =
        insertLink trip link >>= fun _ => rest.forM (insertLink trip) := rfl
    rw [hcons, bind_assoc, insertLink, bind_assoc]
    exact Follows.step fun _ => ih

theorem openTrip_follows (o : Opening) (links : Links) :
    Follows (openTrip o links) (openPlan o links) := by
  refine Follows.read (loadPrimary_eq _) fun primary => ?_
  refine Follows.check fun draft => ?_
  exact Follows.read (insertTrip_eq draft) fun trip => links_follow trip links.toList

private theorem locationOf_reports (phase : Option Phase) (raw : Option String) :
    Reports phase (locationOf raw) := by
  rw [locationOf]
  split
  · exact .ok _
  · exact .error trivial

private theorem resolveLocation_reports (phase : Option Phase) (explicit : Option Geo.Point)
    (fallback : Option String) : Reports phase (resolveLocation explicit fallback) := by
  rw [resolveLocation]
  split
  · exact .ok _
  · exact (locationOf_reports phase fallback).bind fun _ => .ok _

private theorem draft_reports (phase : Option Phase) (o : Opening) (primary : Offer.Defaults) :
    Reports phase (o.draft primary) :=
  (resolveLocation_reports phase _ _).bind fun _ =>
    (resolveLocation_reports phase _ _).bind fun _ => .ok _

private theorem primaryOf_reports (offer : Int64) (reply : Reply) :
    Reports (some .loadPrimaryOffer) (primaryOf offer reply) := by
  rw [primaryOf]
  split
  · exact .error trivial
  · exact .wrapped _ _

private theorem tripIdOf_reports (reply : Reply) :
    Reports (some .insertTrip) (tripIdOf reply) := by
  rw [tripIdOf]
  split
  · exact .error rfl
  · exact .wrapped _ _

private theorem linkPlan_named (phase : Option Phase) (trip : Int64) (links : List OfferChoice) :
    (linkPlan trip links).Named phase := by
  induction links generalizing phase with
  | nil => trivial
  | cons link rest ih => exact fun _ => ih _

theorem openPlan_named (o : Opening) (links : Links) : (openPlan o links).Named none := by
  intro reply
  refine Plan.named_require (primaryOf_reports _ reply) fun primary => ?_
  refine Plan.named_require (draft_reports _ o primary) fun draft => ?_
  intro reply
  exact Plan.named_require (tripIdOf_reports reply) fun trip => linkPlan_named _ trip _

def ownedStatus (driver : Int64) (reply : Reply) : Except Failure String :=
  match reply.rows with
  | [] => .error .notFoundOrForbidden
  | row :: _ =>
    match readLock row with
    | .error e => .error (.transaction .lockTrip e)
    | .ok (some owner, status) => if owner = driver then .ok status else .error .notFoundOrForbidden
    | .ok (none, _) => .error .notFoundOrForbidden

def completedOne (trip : Int64) (reply : Reply) : Except Failure Unit :=
  if reply.affected = 1 then .ok () else .error (.conflict (.changedConcurrently trip))

def closePlan (trip driver : Int64) : Plan Nat :=
  .step .lockTrip ⟨Sql.selectTripForUpdate, [.int (some trip)]⟩ fun reply =>
    .require (ownedStatus driver reply) fun status =>
      .require (checkActive trip status) fun _ =>
        .step .loadTripTelemetry ⟨Sql.selectTripTelemetry, [.int (some trip)]⟩ fun reply =>
          .require (reply.rows.mapM readTripSample) fun samples =>
            .step .completeTrip
              ⟨Sql.completeTrip, [.int (some trip), .json (snapshot samples)]⟩ fun reply =>
                .require (completedOne trip reply) fun _ => .finish samples.length

private theorem lockOwned_eq (trip driver : Int64) :
    lockOwned trip driver = ask (.transaction .lockTrip) Sql.selectTripForUpdate
      [.int (some trip)] >>= fun reply => check (ownedStatus driver reply) := by
  refine congrArg (_ >>= ·) (funext fun reply => ?_)
  simp only [ownedStatus]
  cases reply.rows with
  | nil => rfl
  | cons row rest =>
    cases hread : readLock row with
    | error e => simp only [hread]; rfl
    | ok lock =>
      obtain ⟨owner, status⟩ := lock
      cases owner with
      | none => simp only [hread]; rfl
      | some owner =>
        have hdecode : decode (.transaction .lockTrip) (.ok (some owner, status)) =
            (pure (some owner, status) : Work (Option Int64 × String)) := rfl
        simp only [hread, hdecode, pure_bind]
        split <;> rfl

theorem closeTrip_follows (trip driver : Int64) :
    Follows (closeTrip trip driver) (closePlan trip driver) := by
  refine Follows.read (lockOwned_eq trip driver) fun status => ?_
  refine Follows.check fun _ => ?_
  refine Follows.read rfl fun samples => ?_
  refine Follows.step fun reply => ?_
  simp only [completedOne]
  by_cases h : reply.affected = 1
  · rw [if_pos h, if_neg (not_not_intro h)]
    rfl
  · rw [if_neg h, if_pos h]
    rfl

private theorem readTripSample_reports (row : Row) :
    Reports (some .loadTripTelemetry) (readTripSample row) :=
  (Reports.wrapped _ _).bind fun _ => .decoded _

private theorem ownedStatus_reports (driver : Int64) (reply : Reply) :
    Reports (some .lockTrip) (ownedStatus driver reply) := by
  rw [ownedStatus]
  split
  · exact .error trivial
  · split
    · exact .error rfl
    · split
      · exact .ok _
      · exact .error trivial
    · exact .error trivial

private theorem checkActive_reports (phase : Option Phase) (trip : Int64) (status : String) :
    Reports phase (checkActive trip status) := by
  rw [checkActive, Status.ofText]
  cases Status.ofText? status with
  | none => exact .error trivial
  | some status =>
    cases status with
    | active => exact .ok ()
    | completed => exact .error trivial

private theorem completedOne_reports (phase : Option Phase) (trip : Int64) (reply : Reply) :
    Reports phase (completedOne trip reply) := by
  rw [completedOne]
  split
  · exact .ok ()
  · exact .error trivial

theorem closePlan_named (trip driver : Int64) : (closePlan trip driver).Named none := by
  intro reply
  refine Plan.named_require (ownedStatus_reports driver reply) fun status => ?_
  refine Plan.named_require (checkActive_reports _ trip status) fun _ => ?_
  intro reply
  refine Plan.named_require (Reports.mapM readTripSample_reports reply.rows) fun samples => ?_
  intro reply
  exact Plan.named_require (completedOne_reports _ trip reply) fun _ => trivial

def storedReading (index : Nat) (r : Reading) (reply : Reply) : Except Failure Unit :=
  if reply.affected = 0 then .error (.validation (.missingTrip index r.tripId)) else .ok ()

/-- One insertion after the other; the first reading has the number `index`. -/
def ingestPlan : Nat → List Reading → Plan Unit
  | _, [] => .finish ()
  | index, r :: rest =>
    .step .insertTelemetrySample ⟨Sql.insertTelemetry, readingArgs r⟩ fun reply =>
      .require (storedReading index r reply) fun _ => ingestPlan (index + 1) rest

theorem insertReadings_follows (index : Nat) (readings : List Reading) :
    Follows (insertReadings index readings) (ingestPlan index readings) := by
  induction readings generalizing index with
  | nil => exact Follows.pure ()
  | cons r rest ih =>
    refine Follows.read ?_ fun _ => ih (index + 1)
    refine congrArg (_ >>= ·) (funext fun reply => ?_)
    simp only [storedReading]
    split <;> rfl

private theorem storedReading_reports (phase : Option Phase) (index : Nat) (r : Reading)
    (reply : Reply) : Reports phase (storedReading index r reply) := by
  rw [storedReading]
  split
  · exact .error trivial
  · exact .ok ()

theorem ingestPlan_named (phase : Option Phase) (index : Nat) (readings : List Reading) :
    (ingestPlan index readings).Named phase := by
  induction readings generalizing phase index with
  | nil => trivial
  | cons r rest ih =>
    intro reply
    exact Plan.named_require (storedReading_reports _ index r reply) fun _ => ih _ _

section Operations

variable {σ α β : Type} (store : Responder σ)

/-- Does not talk to the store, and gives `result`. -/
def Quiet (work : Work α) (result : Except Failure α) : Prop :=
  ∀ {σ : Type} (store : Responder σ) (s : σ),
    (work.run.run store s).exchanges = [] ∧ (work.run.run store s).value = result

def proceed (f : α → Work β) : Except Failure α → Session (Except Failure β)
  | .ok a => (f a).run
  | .error failure => .done (.error failure)

private def recover (handle : Failure → Work α) : Except Failure α → Session (Except Failure α)
  | .ok a => .done (.ok a)
  | .error failure => (handle failure).run

theorem run_bind (work : Work α) (f : α → Work β) :
    (work >>= f).run = work.run.bind (proceed f) := by
  refine congrArg (Session.bind work.run) (funext fun result => ?_)
  cases result <;> rfl

/-- What is done with a value without talking to the store leaves the exchanges as they are. -/
theorem run_bind_quiet {work : Work α} {f : α → Work β} {give : α → β}
    (hf : ∀ a, Quiet (f a) (.ok (give a))) (s : σ) :
    ((work >>= f).run.run store s).exchanges = (work.run.run store s).exchanges ∧
      ((work >>= f).run.run store s).value = (work.run.run store s).value.map give := by
  rw [run_bind, Session.exchanges_bind, Session.value_bind]
  generalize work.run.run store s = first
  cases hvalue : first.value with
  | error failure => exact ⟨List.append_nil _, rfl⟩
  | ok a =>
    obtain ⟨hexchanges, hresult⟩ := hf a store first.state
    refine ⟨?_, hresult⟩
    show first.exchanges ++ ((f a).run.run store first.state).exchanges = first.exchanges
    rw [hexchanges, List.append_nil]

theorem run_tryCatch_quiet (work : Work α) (handle : Failure → Work α)
    (h : ∀ failure, Quiet (handle failure) (.error failure)) (s : σ) :
    ((tryCatch work handle).run.run store s).exchanges = (work.run.run store s).exchanges ∧
      ((tryCatch work handle).run.run store s).value = (work.run.run store s).value := by
  have hrun : (tryCatch work handle).run = work.run.bind (recover handle) := by
    refine congrArg (Session.bind work.run) (funext fun result => ?_)
    cases result <;> rfl
  rw [hrun, Session.exchanges_bind, Session.value_bind]
  generalize work.run.run store s = first
  cases hvalue : first.value with
  | ok a => exact ⟨List.append_nil _, rfl⟩
  | error failure =>
    obtain ⟨hexchanges, hresult⟩ := h failure store first.state
    refine ⟨?_, hresult⟩
    show first.exchanges ++ ((handle failure).run.run store first.state).exchanges = first.exchanges
    rw [hexchanges, List.append_nil]

theorem Atomic.bind_quiet {plan : Plan α} {work : Work α} {f : α → Work β} {give : α → β} {s : σ}
    (h : Atomic plan id (work.run.run store s).exchanges (work.run.run store s).value)
    (hf : ∀ a, Quiet (f a) (.ok (give a))) :
    Atomic plan give ((work >>= f).run.run store s).exchanges
      ((work >>= f).run.run store s).value := by
  rw [(run_bind_quiet store hf s).1, (run_bind_quiet store hf s).2]
  exact h.map give

/-- A list of offers that no trip can be started from: there is none, or several are main. -/
def Refused (offers : List OfferChoice) : Prop := offers = [] ∨ 1 < offers.countP (·.isMain)

private theorem ofChoices_refused {offers : List OfferChoice} (h : Refused offers) :
    ∃ reason, Links.ofChoices offers = .error (.validation reason) := by
  cases offers with
  | nil => exact ⟨.noOffers, rfl⟩
  | cons first rest =>
    obtain h | h := h
    · cases h
    · exact ⟨_, by rw [Links.ofChoices, if_pos h]⟩

private theorem ofChoices_taken {offers : List OfferChoice} (h : ¬Refused offers) :
    ∃ links, Links.ofChoices offers = .ok links := by
  obtain ⟨hnil, hmain⟩ := not_or.mp h
  cases offers with
  | nil => exact absurd rfl hnil
  | cons first rest =>
    simp only [Links.ofChoices, if_neg hmain]
    split
    · exact ⟨_, rfl⟩
    · exact ⟨_, rfl⟩

/-- Some exchange begins a transaction, or tries to. -/
def Begins (exchanges : List Exchange) : Prop := ∃ x ∈ exchanges, x.request = .begin

theorem Atomic.begins {plan : Plan α} {give : α → β} {exchanges : List Exchange}
    {result : Except Failure β} (h : Atomic plan give exchanges result) : Begins exchanges := by
  cases h <;> exact ⟨_, List.mem_cons_self, rfl⟩

theorem startTrip_refused {o : Opening} (h : Refused o.offers) (s : σ) :
    ((startTrip o).run.run store s).exchanges = [] ∧
      ∃ reason, ((startTrip o).run.run store s).value = .error (.validation reason) := by
  obtain ⟨reason, hreason⟩ := ofChoices_refused h
  rw [startTrip, hreason]
  exact ⟨rfl, reason, rfl⟩

theorem startTrip_atomic {o : Opening} {links : Links} (h : Links.ofChoices o.offers = .ok links)
    (s : σ) :
    Atomic (openPlan o links) id ((startTrip o).run.run store s).exchanges
      ((startTrip o).run.run store s).value := by
  have hunit := transaction_atomic store (openTrip_follows o links) (openPlan_named o links) s
  rw [startTrip, h, check_ok_bind]
  exact hunit.bind_quiet store fun _ _ _ _ => ⟨rfl, rfl⟩

theorem endTrip_atomic (trip driver : Int64) (company : Option Int64) (s : σ) :
    Atomic (closePlan trip driver) (fun _ => ())
      ((endTrip trip driver company).run.run store s).exchanges
      ((endTrip trip driver company).run.run store s).value := by
  have hunit := transaction_atomic store (closeTrip_follows trip driver)
    (closePlan_named trip driver) s
  have hcatch := run_tryCatch_quiet store (transaction (closeTrip trip driver))
    (fun failure => noteRefusal trip driver company failure >>= fun _ => throw failure)
    (fun failure _ _ _ => by cases failure <;> exact ⟨rfl, rfl⟩) s
  rw [← hcatch.1, ← hcatch.2] at hunit
  exact hunit.bind_quiet store fun _ _ _ _ => ⟨rfl, rfl⟩

theorem ingest_empty (s : σ) :
    ((ingest []).run.run store s).exchanges = [] ∧ ((ingest []).run.run store s).value = .ok 0 :=
  ⟨rfl, rfl⟩

theorem ingest_atomic {readings : List Reading} (h : readings ≠ []) (s : σ) :
    Atomic (ingestPlan 0 readings) (fun _ => readings.length)
      ((ingest readings).run.run store s).exchanges
      ((ingest readings).run.run store s).value := by
  have hunit := transaction_atomic store (insertReadings_follows 0 readings)
    (ingestPlan_named none 0 readings) s
  rw [ingest, List.isEmpty_eq_false_iff.mpr h]
  exact hunit.bind_quiet store fun _ _ _ _ => ⟨rfl, rfl⟩

/-- On every store, each operation that writes is one unit of work. It fails to begin only when
there is nothing to do or when the list of offers is refused, and then it asks nothing at all. -/
theorem writes_are_units_of_work {σ : Type} (store : Responder σ) (s : σ) :
    (∀ o : Opening,
      let run := (startTrip o).run.run store s
      (Begins run.exchanges ↔ ¬Refused o.offers) ∧
      (Refused o.offers → run.exchanges = [] ∧ ∃ reason, run.value = .error (.validation reason)) ∧
      (¬Refused o.offers → ∃ links, Links.ofChoices o.offers = .ok links ∧
        Atomic (openPlan o links) id run.exchanges run.value)) ∧
    (∀ (trip driver : Int64) (company : Option Int64),
      let run := (endTrip trip driver company).run.run store s
      Begins run.exchanges ∧
        Atomic (closePlan trip driver) (fun _ => ()) run.exchanges run.value) ∧
    (∀ readings : List Reading,
      let run := (ingest readings).run.run store s
      (Begins run.exchanges ↔ readings ≠ []) ∧
      (readings = [] → run.exchanges = [] ∧ run.value = .ok 0) ∧
      (readings ≠ [] →
        Atomic (ingestPlan 0 readings) (fun _ => readings.length) run.exchanges run.value)) := by
  have hnever : ¬Begins [] := fun ⟨_, hmem, _⟩ => nomatch hmem
  refine ⟨fun o => ?_, fun trip driver company => ?_, fun readings => ?_⟩
  · by_cases hrefused : Refused o.offers
    · have hrun := startTrip_refused store hrefused s
      refine ⟨?_, fun _ => hrun, fun h => absurd hrefused h⟩
      exact iff_of_false (hrun.1 ▸ hnever) (not_not_intro hrefused)
    · obtain ⟨links, hlinks⟩ := ofChoices_taken hrefused
      have hrun := startTrip_atomic store hlinks s
      exact ⟨iff_of_true hrun.begins hrefused, fun h => absurd h hrefused,
        fun _ => ⟨links, hlinks, hrun⟩⟩
  · have hrun := endTrip_atomic store trip driver company s
    exact ⟨hrun.begins, hrun⟩
  · by_cases hempty : readings = []
    · subst hempty
      have hrun := ingest_empty store s
      exact ⟨iff_of_false (hrun.1 ▸ hnever) (not_not_intro rfl), fun _ => hrun,
        fun h => absurd rfl h⟩
    · have hrun := ingest_atomic store hempty s
      exact ⟨iff_of_true hrun.begins hempty, fun h => absurd h hempty, fun _ => hrun⟩

end Operations

end FleetTrail.Service
