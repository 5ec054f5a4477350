import FleetTrail.Service.Trips
import Mathlib.Logic.Function.Basic

/-!
# The row of a trip under transactions

What the store keeps of one trip while several connections work on it, and how it may answer them.
Locking the trip waits while another open transaction holds its row, and then shows what has been
committed. Completing it counts one row when the trip is active in the eyes of the transaction. What
a transaction writes becomes visible when it is committed. Any request may be refused, and a refused
request has no effect.

The lemmas say what each request can have done to the store once it has been answered.
-/

namespace FleetTrail.Store

structure TripRecord where
  owner : Option Int64
  deleted : Bool
  status : Trip.Status
  snapshot : Option Json.Value

/-- The row that answers the lock of a trip. -/
def TripRecord.locked (r : TripRecord) : Row :=
  [("driver_id", match r.owner with
    | some n => .int n
    | none => .null),
    ("status", .text r.status.text)]

def TripRecord.complete (r : TripRecord) (snapshot : Json.Value) : TripRecord :=
  { r with status := .completed, snapshot := some snapshot }

/-- An open transaction, as far as it concerns the trip. -/
structure Txn where
  /-- It holds the row. -/
  holds : Bool
  /-- The snapshot that it has completed the trip with, which no other transaction sees. -/
  written : Option Json.Value

structure Table (ι : Type) where
  row : TripRecord
  txn : ι → Option Txn

def lockStatement (trip : Int64) : Statement := ⟨Sql.selectTripForUpdate, [.int (some trip)]⟩

def readStatement (trip : Int64) : Statement := ⟨Sql.selectTripTelemetry, [.int (some trip)]⟩

def completeStatement (trip : Int64) (snapshot : Json.Value) : Statement :=
  ⟨Sql.completeTrip, [.int (some trip), .json snapshot]⟩

theorem lock_ne_read {trip : Int64} : lockStatement trip ≠ readStatement trip := by
  intro h
  have hsql : Sql.selectTripForUpdate = Sql.selectTripTelemetry := congrArg Statement.sql h
  revert hsql
  decide +kernel

theorem lock_ne_complete {trip : Int64} {snapshot : Json.Value} :
    lockStatement trip ≠ completeStatement trip snapshot := by
  intro h
  have hsql : Sql.selectTripForUpdate = Sql.completeTrip := congrArg Statement.sql h
  revert hsql
  decide +kernel

theorem read_ne_complete {trip : Int64} {snapshot : Json.Value} :
    readStatement trip ≠ completeStatement trip snapshot := by
  intro h
  have hsql : Sql.selectTripTelemetry = Sql.completeTrip := congrArg Statement.sql h
  revert hsql
  decide +kernel

namespace Table

variable {ι : Type} [DecidableEq ι]

def set (t : Table ι) (i : ι) (txn : Option Txn) : Table ι :=
  { t with txn := Function.update t.txn i txn }

def Holds (t : Table ι) (i : ι) : Prop := ∃ txn, t.txn i = some txn ∧ txn.holds = true

/-- The trip is active in the eyes of a transaction, which sees what it has written itself. -/
def ActiveFor (t : Table ι) (txn : Txn) : Prop := txn.written = none ∧ t.row.status = .active

def commit (t : Table ι) (i : ι) (txn : Txn) : Table ι :=
  { t.set i none with row := txn.written.elim t.row t.row.complete }

@[simp] theorem set_txn_same (t : Table ι) (i : ι) (txn : Option Txn) :
    (t.set i txn).txn i = txn := by simp [set]

@[simp] theorem set_txn_other (t : Table ι) {i j : ι} (h : j ≠ i) (txn : Option Txn) :
    (t.set i txn).txn j = t.txn j := by simp [set, h]

@[simp] theorem commit_txn_other (t : Table ι) {i j : ι} (h : j ≠ i) (txn : Txn) :
    (t.commit i txn).txn j = t.txn j := by simp [commit, set, h]

theorem Holds.of_set {t : Table ι} {i j : ι} {txn : Option Txn} (h : (t.set i txn).Holds j)
    (own : ∀ o ∈ txn, o.holds = true → t.Holds i) : t.Holds j := by
  obtain ⟨o, ho, hholds⟩ := h
  by_cases hj : j = i
  · subst hj
    rw [set_txn_same] at ho
    exact own o ho hholds
  · rw [set_txn_other _ hj] at ho
    exact ⟨o, ho, hholds⟩

theorem Holds.of_set_none {t : Table ι} {i j : ι} (h : (t.set i none).Holds j) : t.Holds j :=
  h.of_set fun _ ho => nomatch ho

end Table

variable {ι : Type} [DecidableEq ι]

/-- How the store may answer a request of connection `i`. An update is not made to wait here and
takes no hold of the row: what is proved rests on the lock alone. -/
inductive Serves (trip : Int64) (i : ι) (t : Table ι) : Request → Answer → Table ι → Prop
  | refuses (request : Request) (e : StoreError) : Serves trip i t request (.error e) t
  | begins (reply : Reply) : Serves trip i t .begin (.ok reply) (t.set i (some ⟨false, none⟩))
  | locks {statement : Statement} {reply : Reply} {txn : Txn}
      (asked : statement = lockStatement trip) (begun : t.txn i = some txn)
      (live : t.row.deleted = false) (free : ∀ j, j ≠ i → ¬t.Holds j)
      (shown : reply.rows = [t.row.locked]) :
      Serves trip i t (.data statement) (.ok reply) (t.set i (some { txn with holds := true }))
  /-- A deleted trip is not found, and nothing is locked. -/
  | misses {statement : Statement} {reply : Reply} {txn : Txn}
      (asked : statement = lockStatement trip) (begun : t.txn i = some txn)
      (gone : t.row.deleted = true) (shown : reply.rows = []) :
      Serves trip i t (.data statement) (.ok reply) t
  | reads {statement : Statement} {txn : Txn} (reply : Reply)
      (asked : statement = readStatement trip) (begun : t.txn i = some txn) :
      Serves trip i t (.data statement) (.ok reply) t
  | completes {statement : Statement} {reply : Reply} {txn : Txn} {snapshot : Json.Value}
      (asked : statement = completeStatement trip snapshot) (begun : t.txn i = some txn)
      (active : t.ActiveFor txn) (counted : reply.affected = 1) :
      Serves trip i t (.data statement) (.ok reply)
        (t.set i (some { txn with written := some snapshot }))
  | leaves {statement : Statement} {reply : Reply} {txn : Txn} {snapshot : Json.Value}
      (asked : statement = completeStatement trip snapshot) (begun : t.txn i = some txn)
      (inactive : ¬t.ActiveFor txn) (counted : reply.affected = 0) :
      Serves trip i t (.data statement) (.ok reply) t
  | commits {txn : Txn} (reply : Reply) (begun : t.txn i = some txn) :
      Serves trip i t .commit (.ok reply) (t.commit i txn)
  | rollsBack (reply : Reply) : Serves trip i t .rollback (.ok reply) (t.set i none)

namespace Serves

variable {trip : Int64} {i : ι} {t t' : Table ι} {request : Request} {reply : Reply}

theorem txn_other {answer : Answer} (h : Serves trip i t request answer t') {j : ι} (hj : j ≠ i) :
    t'.txn j = t.txn j := by
  cases h with
  | refuses | misses | reads | leaves => rfl
  | begins | locks | completes | rollsBack => exact t.set_txn_other hj _
  | commits reply begun => exact t.commit_txn_other hj _

/-- Nothing but a commit changes what is committed. -/
theorem row_eq {answer : Answer} (h : Serves trip i t request answer t') (hr : request ≠ .commit) :
    t'.row = t.row := by
  cases h with
  | refuses | misses | reads | leaves | begins | locks | completes | rollsBack => rfl
  | commits reply begun => exact absurd rfl hr

theorem alone {answer : Answer} (h : Serves trip i t request answer t')
    (ht : ∀ j k, t.Holds j → t.Holds k → j = k) : ∀ j k, t'.Holds j → t'.Holds k → j = k := by
  -- A connection that holds the row afterwards held it before, unless it has just locked it.
  have hstep : (∀ j, t'.Holds j → t.Holds j) ∨
      ((∀ j, j ≠ i → ¬t.Holds j) ∧ ∀ j, j ≠ i → t'.txn j = t.txn j) := by
    cases h with
    | refuses | misses | reads | leaves => exact .inl fun j hj => hj
    | locks asked begun live free shown => exact .inr ⟨free, fun j hj => t.set_txn_other hj _⟩
    | begins reply => exact .inl fun j hj => hj.of_set (by rintro _ ⟨⟩ ⟨⟩)
    | completes asked begun active counted =>
      exact .inl fun j hj => hj.of_set (by rintro _ ⟨⟩ hholds; exact ⟨_, begun, hholds⟩)
    | commits reply begun => exact .inl fun j hj => Table.Holds.of_set_none hj
    | rollsBack reply => exact .inl fun j hj => hj.of_set_none
  intro j k hj hk
  rcases hstep with hkept | ⟨hfree, hother⟩
  · exact ht j k (hkept j hj) (hkept k hk)
  · have hself (j : ι) (hj : t'.Holds j) : j = i := by
      by_contra hne
      obtain ⟨txn, htxn, hholds⟩ := hj
      exact hfree j hne ⟨txn, by rwa [hother j hne] at htxn, hholds⟩
    rw [hself j hj, hself k hk]

theorem of_error {e : StoreError} (h : Serves trip i t request (.error e) t') : t' = t := by
  cases h
  rfl

theorem of_begin (h : Serves trip i t .begin (.ok reply) t') :
    t' = t.set i (some ⟨false, none⟩) := by
  cases h
  rfl

/-- A lock that is answered holds the row alone and shows it as it has been committed, or finds no
trip. -/
theorem of_lock (h : Serves trip i t (.data (lockStatement trip)) (.ok reply) t') :
    (∃ txn, t.txn i = some txn ∧ (∀ j, j ≠ i → ¬t.Holds j) ∧ reply.rows = [t.row.locked] ∧
      t' = t.set i (some { txn with holds := true })) ∨ (reply.rows = [] ∧ t' = t) := by
  cases h with
  | locks asked begun live free shown => exact .inl ⟨_, begun, free, shown, rfl⟩
  | misses asked begun gone shown => exact .inr ⟨shown, rfl⟩
  | reads reply asked begun => exact absurd asked lock_ne_read
  | completes asked begun active counted => exact absurd asked lock_ne_complete
  | leaves asked begun inactive counted => exact absurd asked lock_ne_complete

theorem of_read (h : Serves trip i t (.data (readStatement trip)) (.ok reply) t') : t' = t := by
  cases h with
  | locks asked begun live free shown => exact absurd asked.symm lock_ne_read
  | misses asked begun gone shown => exact absurd asked.symm lock_ne_read
  | reads reply asked begun => rfl
  | completes asked begun active counted => exact absurd asked read_ne_complete
  | leaves asked begun inactive counted => rfl

theorem of_complete {snapshot : Json.Value}
    (h : Serves trip i t (.data (completeStatement trip snapshot)) (.ok reply) t') :
    (∃ txn, t.txn i = some txn ∧ reply.affected = 1 ∧
      t' = t.set i (some { txn with written := some snapshot })) ∨
    (reply.affected ≠ 1 ∧ t' = t) := by
  cases h with
  | locks asked begun live free shown => exact absurd asked.symm lock_ne_complete
  | misses asked begun gone shown => exact absurd asked.symm lock_ne_complete
  | reads reply asked begun => exact absurd asked.symm read_ne_complete
  | completes asked begun active counted =>
    obtain rfl : snapshot = _ := by simpa [completeStatement] using asked
    exact .inl ⟨_, begun, counted, rfl⟩
  | leaves asked begun inactive counted => exact .inr ⟨by simp [counted], rfl⟩

theorem of_commit (h : Serves trip i t .commit (.ok reply) t') :
    ∃ txn, t.txn i = some txn ∧ t' = t.commit i txn := by
  cases h with
  | commits reply begun => exact ⟨_, begun, rfl⟩

end Serves

end FleetTrail.Store
