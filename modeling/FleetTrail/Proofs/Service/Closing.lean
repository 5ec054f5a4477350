import FleetTrail.Proofs.Service.Answers
import FleetTrail.Proofs.Service.Ending
import FleetTrail.Proofs.Service.Replies
import FleetTrail.Proofs.Telemetry.Recorded

/-!
# When a trip ends

A trip ends for the driver who owns it, while it is active, when all of its telemetry can be read
and the store completes it. `Closes` says which answers that takes, and `FailsToClose` which answers
fail it and what the first of them makes the caller see.
-/

namespace FleetTrail.Service

open Store Telemetry

/-- The answers that end a trip: its lock, its telemetry, its completion with the record of that
telemetry. -/
def Closes (trip driver : Int64) (samples : List Sample) (exchanges : List Exchange) : Prop :=
  ∃ (locked loaded completed : Reply) (record : Json.Value),
    exchanges = [⟨.data (lockStatement trip), .ok locked⟩, ⟨.data (readStatement trip), .ok loaded⟩,
      ⟨.data (completeStatement trip record), .ok completed⟩] ∧
    Shows driver "active" locked ∧
    Held loaded.rows samples ∧
    Recorded samples record ∧
    completed.affected = 1

/-- The answers that fail to end a trip, the last one being the first that is not as it must be. -/
inductive FailsToClose (trip driver : Int64) : List Exchange → Failure → Prop
  | unlocked (e : StoreError) :
      FailsToClose trip driver [⟨.data (lockStatement trip), .error e⟩] (.transaction .lockTrip e)
  | withheld {locked : Reply} {failure : Failure} (withheld : Withholds driver locked failure) :
      FailsToClose trip driver [⟨.data (lockStatement trip), .ok locked⟩] failure
  | unknown {locked : Reply} {status : String} (shown : Shows driver status locked)
      (active : status ≠ "active") (completed : status ≠ "completed") :
      FailsToClose trip driver [⟨.data (lockStatement trip), .ok locked⟩]
        (.validation (.unknownStatus status))
  | completed {locked : Reply} (shown : Shows driver "completed" locked) :
      FailsToClose trip driver [⟨.data (lockStatement trip), .ok locked⟩]
        (.conflict (.alreadyCompleted trip))
  | unloaded {locked : Reply} (shown : Shows driver "active" locked) (e : StoreError) :
      FailsToClose trip driver
        [⟨.data (lockStatement trip), .ok locked⟩, ⟨.data (readStatement trip), .error e⟩]
        (.transaction .loadTripTelemetry e)
  | unread {locked loaded : Reply} {before after : List Row} {samples : List Sample} {row : Row}
      {failure : Failure} (shown : Shows driver "active" locked)
      (rows : loaded.rows = before ++ row :: after)
      (held : Held before samples)
      (unread : SampleUnread row failure) :
      FailsToClose trip driver
        [⟨.data (lockStatement trip), .ok locked⟩, ⟨.data (readStatement trip), .ok loaded⟩] failure
  | uncompleted {locked loaded : Reply} {samples : List Sample} {record : Json.Value}
      (shown : Shows driver "active" locked)
      (held : Held loaded.rows samples)
      (recorded : Recorded samples record)
      (e : StoreError) :
      FailsToClose trip driver
        [⟨.data (lockStatement trip), .ok locked⟩, ⟨.data (readStatement trip), .ok loaded⟩,
          ⟨.data (completeStatement trip record), .error e⟩]
        (.transaction .completeTrip e)
  | changed {locked loaded completed : Reply} {samples : List Sample} {record : Json.Value}
      (shown : Shows driver "active" locked)
      (held : Held loaded.rows samples)
      (recorded : Recorded samples record)
      (counted : completed.affected ≠ 1) :
      FailsToClose trip driver
        [⟨.data (lockStatement trip), .ok locked⟩, ⟨.data (readStatement trip), .ok loaded⟩,
          ⟨.data (completeStatement trip record), .ok completed⟩]
        (.conflict (.changedConcurrently trip))

section Plan

variable {trip driver : Int64} {body : List Exchange}

private theorem carried_locked {locked : Reply} {later : List Exchange}
    {result : Except Failure Nat} (shown : Shows driver "active" locked)
    (rest : Carried (some .lockTrip) (loadPlan trip) later result) :
    Carried none (closePlan trip driver) (⟨.data (lockStatement trip), .ok locked⟩ :: later)
      result :=
  .answered (.require_ok (ownedStatus_eq_ok_iff.mpr shown)
    (.require_ok (checkActive_eq_ok_iff.mpr rfl) rest))

private theorem carried_loaded {before : Option Phase} {loaded : Reply} {samples : List Sample}
    {later : List Exchange} {result : Except Failure Nat}
    (held : Held loaded.rows samples)
    (rest : Carried (some .loadTripTelemetry) (completePlan trip samples) later result) :
    Carried before (loadPlan trip) (⟨.data (readStatement trip), .ok loaded⟩ :: later) result :=
  .answered (.require_ok (readTripSamples_eq_ok_iff.mpr held) rest)

theorem carried_closePlan_ok_iff {n : Nat} :
    Carried none (closePlan trip driver) body (.ok n) ↔
      ∃ samples, samples.length = n ∧ Closes trip driver samples body := by
  constructor
  · intro h
    obtain ⟨locked, _, rfl, hlocked⟩ := h.of_step_ok
    obtain ⟨status, howned, hactive⟩ := hlocked.of_require_ok
    obtain ⟨_, hchecked, hload⟩ := hactive.of_require_ok
    obtain ⟨loaded, _, rfl, hloaded⟩ := hload.of_step_ok
    obtain ⟨samples, hsamples, hcomplete⟩ := hloaded.of_require_ok
    obtain ⟨completed, _, rfl, hcompleted⟩ := hcomplete.of_step_ok
    obtain ⟨_, hone, hfinish⟩ := hcompleted.of_require_ok
    cases hfinish
    rw [checkActive_eq_ok_iff] at hchecked
    subst hchecked
    rw [readTripSamples_eq_ok_iff] at hsamples
    exact ⟨samples, rfl, locked, loaded, completed, _, rfl, ownedStatus_eq_ok_iff.mp howned, hsamples,
      (recorded_iff hsamples).mpr rfl, completedOne_eq_ok_iff.mp hone⟩
  · intro h
    obtain ⟨samples, rfl, locked, loaded, completed, record, rfl, hshown, hheld, hrecord, hone⟩ := h
    obtain rfl := (recorded_iff hheld).mp hrecord
    apply carried_locked hshown
    apply carried_loaded hheld
    exact .answered (.require_ok (completedOne_eq_ok_iff.mpr hone) (.finished _))

theorem carried_closePlan_error_iff {failure : Failure} :
    Carried none (closePlan trip driver) body (.error failure) ↔
      FailsToClose trip driver body failure := by
  constructor
  · intro h
    obtain ⟨e, rfl, rfl⟩ | ⟨locked, _, rfl, hlocked⟩ := carried_step_error_iff.mp h
    · exact .unlocked e
    obtain ⟨rfl, howned, -⟩ | ⟨status, howned, hactive⟩ := carried_require_error_iff.mp hlocked
    · exact .withheld (ownedStatus_eq_error_iff.mp howned)
    rw [ownedStatus_eq_ok_iff] at howned
    obtain ⟨rfl, hchecked, -⟩ | ⟨_, hchecked, hload⟩ := carried_require_error_iff.mp hactive
    · obtain ⟨rfl, rfl⟩ | ⟨hstatus, hother, rfl⟩ := checkActive_eq_error_iff.mp hchecked
      · exact .completed howned
      · exact .unknown howned hstatus hother
    rw [checkActive_eq_ok_iff] at hchecked
    subst hchecked
    obtain ⟨e, rfl, rfl⟩ | ⟨loaded, _, rfl, hloaded⟩ := carried_step_error_iff.mp hload
    · exact .unloaded howned e
    obtain ⟨rfl, hsamples, -⟩ | ⟨samples, hsamples, hcomplete⟩ :=
      carried_require_error_iff.mp hloaded
    · obtain ⟨before, samples, row, after, hrows, hheld, hrow⟩ :=
        readTripSamples_eq_error_iff.mp hsamples
      exact .unread howned hrows hheld (readTripSample_eq_error_iff.mp hrow)
    rw [readTripSamples_eq_ok_iff] at hsamples
    obtain ⟨e, rfl, rfl⟩ | ⟨completed, _, rfl, hcompleted⟩ := carried_step_error_iff.mp hcomplete
    · exact .uncompleted howned hsamples ((recorded_iff hsamples).mpr rfl) e
    obtain ⟨rfl, hone, -⟩ | ⟨_, -, hfinish⟩ := carried_require_error_iff.mp hcompleted
    · obtain ⟨hcounted, rfl⟩ := completedOne_eq_error_iff.mp hone
      exact .changed howned hsamples ((recorded_iff hsamples).mpr rfl) hcounted
    · cases hfinish
  · intro h
    cases h with
    | unlocked e => exact .refused e
    | withheld withheld =>
      exact .answered (.require_error (ownedStatus_eq_error_iff.mpr withheld)
        withheld.named)
    | unknown shown active completed =>
      exact .answered (.require_ok (ownedStatus_eq_ok_iff.mpr shown) (.require_error
        (checkActive_eq_error_iff.mpr (.inr ⟨active, completed, rfl⟩)) trivial))
    | completed shown =>
      exact .answered (.require_ok (ownedStatus_eq_ok_iff.mpr shown) (.require_error
        (checkActive_eq_error_iff.mpr (.inl ⟨rfl, rfl⟩)) trivial))
    | unloaded shown e => exact carried_locked shown (.refused e)
    | unread shown rows held unread =>
      apply carried_locked shown
      exact .answered (.require_error (readTripSamples_eq_error_iff.mpr ⟨_, _, _, _, rows, held,
        readTripSample_eq_error_iff.mpr unread⟩) unread.named)
    | uncompleted shown held recorded e =>
      obtain rfl := (recorded_iff held).mp recorded
      exact carried_locked shown (carried_loaded held (.refused e))
    | changed shown held recorded counted =>
      obtain rfl := (recorded_iff held).mp recorded
      apply carried_locked shown
      apply carried_loaded held
      exact .answered (.require_error (completedOne_eq_error_iff.mpr ⟨counted, rfl⟩) trivial)

/-- A body locks the trip, then reads its telemetry, then completes it with what it has read. -/
theorem closePlan_stages {result : Except Failure Nat}
    (h : Carried none (closePlan trip driver) body result) :
    (∃ answer, body = [⟨.data (lockStatement trip), answer⟩]) ∨
      (∃ locked answer,
        body = [⟨.data (lockStatement trip), .ok locked⟩, ⟨.data (readStatement trip), answer⟩]) ∨
      ∃ locked loaded samples record answer,
        body = [⟨.data (lockStatement trip), .ok locked⟩,
          ⟨.data (readStatement trip), .ok loaded⟩,
          ⟨.data (completeStatement trip record), answer⟩] ∧
        Held loaded.rows samples ∧ Recorded samples record := by
  cases result with
  | ok n =>
    obtain ⟨samples, -, locked, loaded, completed, record, rfl, -, hheld, hrecord, -⟩ :=
      carried_closePlan_ok_iff.mp h
    exact .inr (.inr ⟨locked, loaded, samples, record, .ok completed, rfl, hheld, hrecord⟩)
  | error failure =>
    cases carried_closePlan_error_iff.mp h with
    | unlocked e => exact .inl ⟨_, rfl⟩
    | withheld withheld => exact .inl ⟨_, rfl⟩
    | unknown shown active completed => exact .inl ⟨_, rfl⟩
    | completed shown => exact .inl ⟨_, rfl⟩
    | unloaded shown e => exact .inr (.inl ⟨_, _, rfl⟩)
    | unread shown rows held unread => exact .inr (.inl ⟨_, _, rfl⟩)
    | uncompleted shown held recorded e =>
      exact .inr (.inr ⟨_, _, _, _, _, rfl, held, recorded⟩)
    | changed shown held recorded counted =>
      exact .inr (.inr ⟨_, _, _, _, _, rfl, held, recorded⟩)

theorem completion_of_mem {result : Except Failure Nat}
    (h : Carried none (closePlan trip driver) body result) {args : List Bound} {answer : Answer}
    (hmem : ⟨.data ⟨Sql.completeTrip, args⟩, answer⟩ ∈ body) :
    ∃ locked loaded samples record,
      body = [⟨.data (lockStatement trip), .ok locked⟩, ⟨.data (readStatement trip), .ok loaded⟩,
        ⟨.data ⟨Sql.completeTrip, args⟩, answer⟩] ∧
      Held loaded.rows samples ∧
      args = [.int (some trip), .json record] ∧ Recorded samples record := by
  have hlock : Sql.completeTrip ≠ Sql.selectTripForUpdate := by decide +kernel
  have hread : Sql.completeTrip ≠ Sql.selectTripTelemetry := by decide +kernel
  obtain ⟨_, rfl⟩ | ⟨_, _, rfl⟩ | ⟨locked, loaded, samples, record, _, rfl, hheld, hrecord⟩ :=
    closePlan_stages h
  · simp [lockStatement, hlock] at hmem
  · simp [lockStatement, readStatement, hlock, hread] at hmem
  · obtain ⟨rfl, rfl⟩ : args = _ ∧ answer = _ := by
      simpa [lockStatement, readStatement, completeStatement, hlock, hread] using hmem
    exact ⟨locked, loaded, samples, record, rfl, hheld, rfl, hrecord⟩

end Plan

/-- A trip ends exactly when it is begun, locked, read, completed and committed as it must be, and
else the caller is told of the first of these that goes wrong. Whenever its completion is asked for,
it is bound to the record of the samples in the rows that were read. -/
theorem endTrip_decided {σ : Type} (store : Responder σ) (s : σ) (trip driver : Int64)
    (company : Option Int64) :
    let run := (endTrip trip driver company).run.run store s
    (run.value = .ok () ↔ ∃ begun body samples done, Closes trip driver samples body ∧
      store.Gives s (⟨.begin, .ok begun⟩ :: body ++ [⟨.commit, .ok done⟩])) ∧
    (∀ failure, run.value = .error failure ↔
      (∃ e, failure = .transaction .begin e ∧ store.Gives s [⟨.begin, .error e⟩]) ∨
      (∃ begun body, FailsToClose trip driver body failure ∧
        store.Gives s (⟨.begin, .ok begun⟩ :: body)) ∨
      ∃ begun body samples e, failure = .transaction .commit e ∧
        Closes trip driver samples body ∧
        store.Gives s (⟨.begin, .ok begun⟩ :: body ++ [⟨.commit, .error e⟩])) ∧
    ∀ args answer, ⟨.data ⟨Sql.completeTrip, args⟩, answer⟩ ∈ run.exchanges →
      ∃ begun locked loaded samples record settled,
        run.exchanges = [⟨.begin, .ok begun⟩, ⟨.data (lockStatement trip), .ok locked⟩,
          ⟨.data (readStatement trip), .ok loaded⟩, ⟨.data ⟨Sql.completeTrip, args⟩, answer⟩,
          settled] ∧
        Held loaded.rows samples ∧
        args = [.int (some trip), .json record] ∧ Recorded samples record := by
  have hunit := endTrip_atomic store trip driver company s
  have hgives := (endTrip trip driver company).run.gives_run store s
  intro run
  refine ⟨?_, ?_, ?_⟩
  · rw [hunit.ok_iff hgives]
    simp only [carried_closePlan_ok_iff]
    grind
  · intro failure
    rw [hunit.error_iff hgives]
    simp only [carried_closePlan_ok_iff, carried_closePlan_error_iff]
    grind
  · intro args answer hmem
    obtain ⟨e, hexchanges, -⟩ | ⟨begun, body, result, settled, hcarried, hexchanges, -⟩ :=
      atomic_iff.mp hunit
    · rw [hexchanges] at hmem
      simp at hmem
    · rw [hexchanges] at hmem ⊢
      have hbody : ⟨.data ⟨Sql.completeTrip, args⟩, answer⟩ ∈ body := by
        cases result <;> simpa [settlement] using hmem
      obtain ⟨locked, loaded, samples, record, rfl, hheld, hargs⟩ := completion_of_mem hcarried hbody
      exact ⟨begun, locked, loaded, samples, record, _, rfl, hheld, hargs⟩

end FleetTrail.Service
