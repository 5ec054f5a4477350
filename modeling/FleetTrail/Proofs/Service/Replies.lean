import FleetTrail.Proofs.Service.Atomicity
import FleetTrail.Proofs.Telemetry.Rows

/-!
# What the replies to the end of a trip say

Each reply is checked before the next statement is sent. The lemmas say which replies pass a check,
and what is wrong with any other.
-/

namespace FleetTrail.Service

open Store Trip Telemetry Geo

/-- The lock of a trip shows the driver who owns it and its status. -/
def Shows (driver : Int64) (status : String) (locked : Reply) : Prop :=
  ∃ row rest, locked.rows = row :: rest ∧ row.cell "driver_id" = .int driver ∧
    row.cell "status" = .text status

/-- The first row of a lock cannot be read: its owner is neither NULL nor an id, or its status is no
text. -/
inductive LockUnread (row : Row) : StoreError → Prop
  | owner (filled : row.cell "driver_id" ≠ .null) (unread : (row.cell "driver_id").int? = none) :
      LockUnread row (.columnDecode (Text.quoted "driver_id"))
  | status {owner : Option Int64} (read : row.cell "driver_id" = .ofOption .int owner)
      (unread : (row.cell "status").text? = none) : LockUnread row (.columnDecode "1")

/-- What is wrong with a lock that gives a driver no status. -/
inductive Withholds (driver : Int64) (locked : Reply) : Failure → Prop
  | unread {row : Row} {rest : List Row} {e : StoreError} (rows : locked.rows = row :: rest)
      (unread : LockUnread row e) : Withholds driver locked (.transaction .lockTrip e)
  | missing (rows : locked.rows = []) : Withholds driver locked .notFoundOrForbidden
  /-- The trip has no owner, or another one. -/
  | foreign {row : Row} {rest : List Row} {owner : Option Int64} {status : String}
      (rows : locked.rows = row :: rest) (owned : row.cell "driver_id" = .ofOption .int owner)
      (other : owner ≠ some driver) (shown : row.cell "status" = .text status) :
      Withholds driver locked .notFoundOrForbidden

inductive SampleUnread (row : Row) : Failure → Prop
  | column {e : StoreError} (unread : SampleRow.ofRow row = .error e) :
      SampleUnread row (.transaction .loadTripTelemetry e)
  | point {r : SampleRow} {text : String} {e : PointError} (read : SampleRow.ofRow row = .ok r)
      (written : r.coordinates = some text) (undecoded : Point.ofText text = .error e) :
      SampleUnread row (.decode e)

variable {trip driver : Int64} {row : Row} {failure : Failure}

theorem readLock_eq_ok_iff {owner : Option Int64} {status : String} :
    readLock row = .ok (owner, status) ↔
      row.cell "driver_id" = .ofOption .int owner ∧ row.cell "status" = .text status := by
  simp only [readLock, bind_eq_ok_iff, pure_eq_ok_iff, Row.optional_eq_ok_iff Cell.reads_int,
    Row.valueAs_eq_ok_iff Cell.reads_text]
  simp

theorem readLock_eq_error_iff {e : StoreError} : readLock row = .error e ↔ LockUnread row e := by
  simp only [readLock, bind_eq_error_iff, Row.optional_eq_ok_iff Cell.reads_int,
    Row.optional_eq_error_iff, Row.valueAs_eq_error_iff]
  constructor
  · intro h
    obtain ⟨hfilled, hunread, rfl⟩ | ⟨owner, hread, ⟨hunread, rfl⟩ | ⟨_, -, ⟨⟩⟩⟩ := h
    · exact .owner hfilled hunread
    · exact .status hread hunread
  · intro h
    cases h with
    | owner filled unread => exact .inl ⟨filled, unread, rfl⟩
    | status read unread => exact .inr ⟨_, read, .inl ⟨unread, rfl⟩⟩

theorem ownedStatus_eq_ok_iff {locked : Reply} {status : String} :
    ownedStatus driver locked = .ok status ↔ Shows driver status locked := by
  rw [ownedStatus]
  split
  next hrows => simp [Shows, hrows]
  next row rest hrows =>
    have hshows : Shows driver status locked ↔ readLock row = .ok (some driver, status) := by
      rw [readLock_eq_ok_iff]
      simp [Shows, hrows, Cell.ofOption]
    rw [hshows]
    split
    next e hread => simp [hread]
    next owner text hread =>
      rw [hread]
      split <;> simp_all
    next text hread => simp [hread]

theorem ownedStatus_eq_error_iff {locked : Reply} :
    ownedStatus driver locked = .error failure ↔ Withholds driver locked failure := by
  constructor
  · intro h
    rw [ownedStatus] at h
    split at h
    next hrows =>
      cases h
      exact .missing hrows
    next row rest hrows =>
      split at h
      next e hread =>
        cases h
        exact .unread hrows (readLock_eq_error_iff.mp hread)
      next owner status hread =>
        obtain ⟨howned, hshown⟩ := readLock_eq_ok_iff.mp hread
        split at h
        next => cases h
        next hother =>
          cases h
          exact .foreign hrows howned (by simpa using hother) hshown
      next status hread =>
        obtain ⟨howned, hshown⟩ := readLock_eq_ok_iff.mp hread
        cases h
        exact .foreign hrows howned (by simp) hshown
  · intro h
    cases h with
    | unread rows unread => simp only [ownedStatus, rows, readLock_eq_error_iff.mpr unread]
    | missing rows => simp only [ownedStatus, rows]
    | @foreign row rest owner status rows owned other shown =>
      simp only [ownedStatus, rows, readLock_eq_ok_iff.mpr ⟨owned, shown⟩]
      cases owner with
      | none => rfl
      | some owner => exact if_neg fun h => other (congrArg some h)

private theorem checkActive_cases (trip : Int64) (status : String) :
    (status = "active" ∧ checkActive trip status = .ok ()) ∨
      (status = "completed" ∧
        checkActive trip status = .error (.conflict (.alreadyCompleted trip))) ∨
      (status ≠ "active" ∧ status ≠ "completed" ∧
        checkActive trip status = .error (.validation (.unknownStatus status))) := by
  by_cases hactive : status = "active"
  · subst hactive
    exact .inl ⟨rfl, rfl⟩
  by_cases hcompleted : status = "completed"
  · subst hcompleted
    exact .inr (.inl ⟨rfl, rfl⟩)
  have hunknown : Status.ofText? status = none := by
    unfold Status.ofText?
    split
    · exact absurd rfl hactive
    · exact absurd rfl hcompleted
    · rfl
  refine .inr (.inr ⟨hactive, hcompleted, ?_⟩)
  rw [checkActive, Status.ofText, hunknown]
  rfl

theorem checkActive_eq_ok_iff {status : String} :
    checkActive trip status = .ok () ↔ status = "active" := by
  obtain ⟨rfl, h⟩ | ⟨rfl, h⟩ | ⟨hactive, -, h⟩ := checkActive_cases trip status
  · simp [h]
  · simp [h]
  · simp [h, hactive]

theorem checkActive_eq_error_iff {status : String} :
    checkActive trip status = .error failure ↔
      (status = "completed" ∧ failure = .conflict (.alreadyCompleted trip)) ∨
      (status ≠ "active" ∧ status ≠ "completed" ∧
        failure = .validation (.unknownStatus status)) := by
  obtain ⟨rfl, h⟩ | ⟨rfl, h⟩ | ⟨hactive, hcompleted, h⟩ := checkActive_cases trip status
  · simp [h]
  · simp [h, eq_comm]
  · simp [h, hactive, hcompleted, eq_comm]

theorem Withholds.named {locked : Reply} (h : Withholds driver locked failure) :
    NamedBy (some .lockTrip) failure := by
  cases h with
  | unread rows unread => rfl
  | missing rows => trivial
  | foreign rows owned other shown => trivial

theorem SampleUnread.named (h : SampleUnread row failure) :
    NamedBy (some .loadTripTelemetry) failure := by
  cases h with
  | column unread => rfl
  | point read written undecoded => trivial

theorem readTripSample_eq_error_iff :
    readTripSample row = .error failure ↔ SampleUnread row failure := by
  simp only [readTripSample, SampleRow.sample, bind_eq_error_iff, mapError_eq_error_iff,
    mapError_eq_ok_iff]
  constructor
  · intro h
    obtain ⟨e, hunread, rfl⟩ | ⟨r, hread, e, hundecoded | ⟨_, -, ⟨⟩⟩, rfl⟩ := h
    · exact .column hunread
    · cases htext : r.coordinates with
      | none =>
        rw [htext] at hundecoded
        cases hundecoded
      | some text =>
        rw [htext, Point.ofOptionalText_some_eq_error_iff] at hundecoded
        exact .point hread htext hundecoded
  · intro h
    cases h with
    | column unread => exact .inl ⟨_, unread, rfl⟩
    | point read written undecoded =>
      rw [← Point.ofOptionalText_some_eq_error_iff, ← written] at undecoded
      exact .inr ⟨_, read, _, .inl undecoded, rfl⟩

theorem completedOne_eq_ok_iff {completed : Reply} :
    completedOne trip completed = .ok () ↔ completed.affected = 1 := by
  simp [completedOne]

theorem completedOne_eq_error_iff {completed : Reply} :
    completedOne trip completed = .error failure ↔
      completed.affected ≠ 1 ∧ failure = .conflict (.changedConcurrently trip) := by
  by_cases h : completed.affected = 1
  · simp [completedOne, h]
  · simp [completedOne, h, eq_comm]

end FleetTrail.Service
