import FleetTrail.Proofs.Service.Closing

/-!
# What the end of a trip gives away

A driver who does not own a trip is refused in the same words and with the same requests, whether
the trip is missing, foreign, active or completed. Two stores may differ in what they answer to the
lock of the trip; as long as neither shows a trip of the driver, no run can tell them apart. The
company that is given along decides nothing, for an owner neither.
-/

namespace FleetTrail.Service

open Store

/-- The answer to the lock shows no trip, or one whose owner is another driver or nobody. Its status
may be any text. -/
inductive Hides (driver : Int64) : Answer → Prop
  | missing {locked : Reply} (rows : locked.rows = []) : Hides driver (.ok locked)
  | foreign {locked : Reply} {row : Row} {rest : List Row} {owner : Option Int64} {status : String}
      (rows : locked.rows = row :: rest) (owned : row.cell "driver_id" = .ofOption .int owner)
      (other : owner ≠ some driver) (shown : row.cell "status" = .text status) :
      Hides driver (.ok locked)

/-- Two stores that differ in nothing but their answers to the lock of a trip, which hide it from a
driver. `alike` relates the states that they are in after the same requests. -/
structure DifferInLock {σ τ : Type} (trip driver : Int64) (store : Responder σ)
    (store' : Responder τ) (alike : σ → τ → Prop) : Prop where
  stays : ∀ s s', alike s s' → ∀ request,
    alike (store.answer s request).2 (store'.answer s' request).2
  same : ∀ s s', alike s s' → ∀ request, request ≠ .data (lockStatement trip) →
    (store.answer s request).1 = (store'.answer s' request).1
  hides : ∀ s s', alike s s' → Hides driver (store.answer s (.data (lockStatement trip))).1 ∧
    Hides driver (store'.answer s' (.data (lockStatement trip))).1

section Run

variable {σ τ : Type} {trip driver : Int64}

theorem Hides.carried {answer : Answer} (h : Hides driver answer) :
    Carried none (closePlan trip driver) [⟨.data (lockStatement trip), answer⟩]
      (.error .notFoundOrForbidden) := by
  cases h with
  | missing rows => exact carried_closePlan_error_iff.mpr (.withheld (.missing rows))
  | foreign rows owned other shown =>
    exact carried_closePlan_error_iff.mpr (.withheld (.foreign rows owned other shown))

/-- What is asked for a trip that is hidden from its driver, once the begin is answered. -/
def refusedRequests (trip : Int64) : Answer → List Request
  | .ok _ => [.begin, .data (lockStatement trip), .rollback]
  | .error _ => [.begin]

def refusal : Answer → Except Failure Unit
  | .ok _ => .error .notFoundOrForbidden
  | .error e => .error (.transaction .begin e)

theorem endTrip_hidden (store : Responder σ) (s : σ) (company : Option Int64)
    (h : Hides driver (store.answer (store.answer s .begin).2 (.data (lockStatement trip))).1) :
    let run := (endTrip trip driver company).run.run store s
    run.exchanges.map (·.request) = refusedRequests trip (store.answer s .begin).1 ∧
      run.value = refusal (store.answer s .begin).1 := by
  intro run
  have hunit : Atomic (closePlan trip driver) (fun _ => ()) run.exchanges run.value :=
    endTrip_atomic store trip driver company s
  have hgives : store.Gives s run.exchanges := (endTrip trip driver company).run.gives_run store s
  cases hbegin : (store.answer s .begin).1 with
  | error e =>
    obtain ⟨hexchanges, hvalue⟩ := hunit.same (.unbegun e) hgives ⟨hbegin, trivial⟩
    rw [hexchanges, hvalue]
    exact ⟨rfl, rfl⟩
  | ok begun =>
    have hlock : store.Gives s [⟨.begin, .ok begun⟩, ⟨.data (lockStatement trip),
        (store.answer (store.answer s .begin).2 (.data (lockStatement trip))).1⟩] :=
      ⟨hbegin, rfl, trivial⟩
    obtain ⟨settled, hrollback⟩ := hlock.extend .rollback
    obtain ⟨hexchanges, hvalue⟩ := hunit.same (.rolledBack settled h.carried) hgives hrollback
    rw [hexchanges, hvalue]
    exact ⟨rfl, rfl⟩

theorem endTrip_any_company (store : Responder σ) (s : σ) (company company' : Option Int64) :
    let run := (endTrip trip driver company).run.run store s
    let run' := (endTrip trip driver company').run.run store s
    run.exchanges = run'.exchanges ∧ run.value = run'.value :=
  (endTrip_atomic store trip driver company s).same (endTrip_atomic store trip driver company' s)
    ((endTrip trip driver company).run.gives_run store s)
    ((endTrip trip driver company').run.gives_run store s)

end Run

/-- The end of a trip that is not the driver's asks the same and fails in the same way on any two
stores that differ only in what they answer to the lock: it locks, rolls back, and says that the
trip is missing or forbidden, without reading telemetry or writing anything. Whoever owns the trip,
the company changes neither what is asked nor what comes of it. -/
theorem endTrip_keeps_foreign_trips_secret {σ τ : Type} {trip driver : Int64} {store : Responder σ}
    {store' : Responder τ} {alike : σ → τ → Prop} {s : σ} {s' : τ}
    (differ : DifferInLock trip driver store store' alike) (start : alike s s')
    (company company' : Option Int64) :
    let run := (endTrip trip driver company).run.run store s
    let run' := (endTrip trip driver company').run.run store' s'
    run.exchanges.map (·.request) = run'.exchanges.map (·.request) ∧
    run.value = run'.value ∧
    (∀ begun, (store.answer s .begin).1 = .ok begun →
      run.exchanges.map (·.request) = [.begin, .data (lockStatement trip), .rollback] ∧
        run.value = .error .notFoundOrForbidden) ∧
    (∀ e, (store.answer s .begin).1 = .error e →
      run.exchanges.map (·.request) = [.begin] ∧ run.value = .error (.transaction .begin e)) ∧
    ∀ {ρ : Type} (any : Responder ρ) (r : ρ) (owned owner : Int64),
      let given := (endTrip owned owner company).run.run any r
      let given' := (endTrip owned owner company').run.run any r
      given.exchanges = given'.exchanges ∧ given.value = given'.value := by
  intro run run'
  have hbegin : (store.answer s .begin).1 = (store'.answer s' .begin).1 :=
    differ.same s s' start .begin nofun
  have hhides := differ.hides _ _ (differ.stays s s' start .begin)
  obtain ⟨hrequests, hvalue⟩ := endTrip_hidden store s company hhides.1
  obtain ⟨hrequests', hvalue'⟩ := endTrip_hidden store' s' company' hhides.2
  rw [← hbegin] at hrequests' hvalue'
  refine ⟨hrequests.trans hrequests'.symm, hvalue.trans hvalue'.symm, ?_, ?_, ?_⟩
  · intro begun hbegun
    rw [hbegun] at hrequests hvalue
    exact ⟨hrequests, hvalue⟩
  · intro e hrefused
    rw [hrefused] at hrequests hvalue
    exact ⟨hrequests, hvalue⟩
  · intro ρ any r owned owner
    exact endTrip_any_company any r company company'

def holding (trip : Int64) : Responder Reply where
  answer locked request :=
    match request with
    | .data ⟨sql, [.int (some n)]⟩ =>
      (if sql = Sql.selectTripForUpdate ∧ n = trip then .ok locked else .ok {}, locked)
    | _ => (.ok {}, locked)

theorem holding_differInLock (trip driver : Int64) :
    DifferInLock trip driver (holding trip) (holding trip)
      fun locked locked' => Hides driver (.ok locked) ∧ Hides driver (.ok locked') where
  stays := by
    intro locked locked' h request
    simp only [holding]
    split <;> exact h
  same := by
    intro locked locked' _ request hother
    simp only [holding]
    split
    next sql n =>
      rw [if_neg, if_neg]
      all_goals
        rintro ⟨rfl, rfl⟩
        exact hother rfl
    next => rfl
  hides := by
    intro locked locked' h
    simpa [holding, lockStatement] using h

/-- No trip, and a completed trip of driver 9, to driver 3. -/
theorem endTrip_keeps_completed_trip_secret :
    let missing : Reply := { rows := [] }
    let completed : Reply := { rows := [[("driver_id", .int 9), ("status", .text "completed")]] }
    let run := (endTrip 7 3 none).run.run (holding 7) missing
    let run' := (endTrip 7 3 (some 5)).run.run (holding 7) completed
    (Hides 3 (.ok missing) ∧ Hides 3 (.ok completed)) ∧
      run.exchanges.map (·.request) = run'.exchanges.map (·.request) ∧ run.value = run'.value := by
  have howned : Cell.int 9 = .ofOption .int (some 9) := rfl
  have hides : Hides 3 (.ok { rows := [] }) ∧
      Hides 3 (.ok { rows := [[("driver_id", .int 9), ("status", .text "completed")]] }) :=
    ⟨.missing rfl, .foreign rfl howned (by decide) rfl⟩
  have hsecret := endTrip_keeps_foreign_trips_secret (holding_differInLock 7 3) hides none (some 5)
  exact ⟨hides, hsecret.1, hsecret.2.1⟩

end FleetTrail.Service
