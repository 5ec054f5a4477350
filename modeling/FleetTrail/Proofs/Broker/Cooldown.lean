import FleetTrail.Broker.Consumer
import Mathlib.Data.List.Infix

/-!
# When the consumer cools down

The breaker counts receive errors, and starts over after a cooldown and after every message. So
before a receive its counter is the length of the present run of errors modulo the limit, and the
loop cools down whenever that run has become another whole multiple of the limit. Under a limit of
zero the counter goes as under a limit of one, and the loop cools down before every receive.
-/

namespace FleetTrail.Broker

open Store

def Event.isError : Event → Bool
  | .failed _ => true
  | .empty | .message .. => false

def errorRun (events : List Event) : Nat := (events.reverse.takeWhile Event.isError).length

/-- After `n` receive errors in a row the loop cools down. -/
def CoolsDown (limit n : Nat) : Prop := limit = 0 ∨ 1 ≤ limit ∧ 0 < n ∧ limit ∣ n

instance (limit n : Nat) : Decidable (CoolsDown limit n) :=
  inferInstanceAs (Decidable (_ ∨ _))

def pausesAfter (limit n : Nat) : List Pause :=
  (if 0 < n then [.afterError] else []) ++ if CoolsDown limit n then [.cooldown] else []

/-- The counter at the top of the loop after `n` receive errors in a row. -/
def failuresAfter (limit n : Nat) : Nat := if n = 0 then 0 else (n - 1) % max limit 1 + 1

theorem errorRun_concat (events : List Event) (event : Event) :
    errorRun (events ++ [event]) = if event.isError then errorRun events + 1 else 0 := by
  simp only [errorRun, List.reverse_append, List.reverse_singleton, List.singleton_append,
    List.takeWhile_cons]
  split <;> rfl

section Counter

variable (limit n : Nat)

private theorem succ_mod {m : Nat} (hm : 0 < m) :
    (n + 1) % m = if n % m + 1 = m then 0 else n % m + 1 := by
  have hlt : n % m < m := Nat.mod_lt n hm
  rw [← Nat.mod_add_mod]
  split
  next heq => rw [heq, Nat.mod_self]
  next hne => exact Nat.mod_eq_of_lt (by omega)

theorem failuresAfter_le : failuresAfter limit n ≤ max limit 1 := by
  rw [failuresAfter]
  split
  · exact Nat.zero_le _
  · exact Nat.mod_lt _ (by omega)

theorem le_failuresAfter_iff : limit ≤ failuresAfter limit n ↔ CoolsDown limit n := by
  rw [failuresAfter, CoolsDown]
  obtain rfl | hlimit := Nat.eq_zero_or_pos limit
  · simp
  · rw [Nat.max_eq_left hlimit]
    cases n with
    | zero => simp [Nat.pos_iff_ne_zero.mp hlimit]
    | succ n =>
      have hlt : n % limit < limit := Nat.mod_lt n hlimit
      rw [Nat.dvd_iff_mod_eq_zero, succ_mod n hlimit, if_neg (Nat.succ_ne_zero n)]
      simp
      omega

theorem mod_of_failuresAfter :
    (if CoolsDown limit n then 0 else failuresAfter limit n) = n % max limit 1 := by
  cases n with
  | zero => simp [failuresAfter]
  | succ n =>
    have hpos : 0 < max limit 1 := by omega
    have hlt : n % max limit 1 < max limit 1 := Nat.mod_lt n hpos
    rw [succ_mod n hpos]
    simp only [← le_failuresAfter_iff, failuresAfter, Nat.succ_ne_zero, if_false,
      Nat.add_sub_cancel]
    split <;> split <;> omega

end Counter

section Loop

variable {σ : Type} (store : Responder σ) (c : Config)

/-- The loop from a receive that brings `event` to the next receive. -/
def turn (b : Breaker) (conn : Connection σ) (event : Event) : Round × Breaker × Connection σ :=
  let handled := handle store b conn event
  let cooled := coolDown store c handled.2.1 handled.2.2
  (handled.1.append cooled.1, cooled.2)

/-- The breaker and the connection at the top of the loop, after the events. -/
def top (s : σ) (events : List Event) : Breaker × Connection σ :=
  events.foldl
    (fun state event =>
      let ready := (coolDown store c state.1 state.2).2
      (handle store ready.1 ready.2 event).2)
    (Breaker.closed c.maxRetries, ⟨s, false⟩)

/-- The breaker and the connection at the receive that follows the events. -/
def ready (s : σ) (events : List Event) : Breaker × Connection σ :=
  (coolDown store c (top store c s events).1 (top store c s events).2).2

theorem top_concat (s : σ) (events : List Event) (event : Event) :
    top store c s (events ++ [event]) =
      (handle store (ready store c s events).1 (ready store c s events).2 event).2 := by
  rw [top, List.foldl_append]
  rfl

private theorem rounds_concat (b : Breaker) (conn : Connection σ) (events : List Event)
    (event : Event) :
    let last := events.foldl (fun state event => (turn store c state.1 state.2 event).2) (b, conn)
    rounds store c b conn (events ++ [event]) =
      rounds store c b conn events ++ [(turn store c last.1 last.2 event).1] := by
  induction events generalizing b conn with
  | nil => rfl
  | cons first rest ih => exact congrArg (List.cons _) (ih _ _)

private theorem ready_eq (s : σ) (events : List Event) :
    ready store c s events =
      events.foldl (fun state event => (turn store c state.1 state.2 event).2)
        (ready store c s []) :=
  (List.foldl_hom (fun state : Breaker × Connection σ => (coolDown store c state.1 state.2).2)
    fun _ _ => rfl).symm

theorem consume_concat (s : σ) (events : List Event) (event : Event) :
    consume store c s (events ++ [event]) = consume store c s events ++
      [(turn store c (ready store c s events).1 (ready store c s events).2 event).1] := by
  rw [ready_eq]
  exact congrArg (List.cons _) (rounds_concat store c _ _ events event)

variable {store c}

theorem handle_breaker (b : Breaker) (conn : Connection σ) (event : Event) :
    (handle store b conn event).2.1 =
      ⟨if event.isError then b.failures + 1 else 0, b.max⟩ := by
  cases event <;> rfl

theorem handle_pauses (b : Breaker) (conn : Connection σ) (event : Event) :
    (handle store b conn event).1.pauses = if event.isError then [.afterError] else [] := by
  cases event <;> rfl

theorem coolDown_eq (b : Breaker) (conn : Connection σ) :
    (coolDown store c b conn).1.pauses = (if b.max ≤ b.failures then [.cooldown] else []) ∧
      (coolDown store c b conn).2.1 = ⟨if b.max ≤ b.failures then 0 else b.failures, b.max⟩ := by
  by_cases h : b.max ≤ b.failures
  · have hopen : b.isOpen = true := decide_eq_true h
    rw [coolDown, if_pos hopen, if_pos h, if_pos h]
    exact ⟨rfl, rfl⟩
  · have hclosed : ¬b.isOpen = true := by rw [Breaker.isOpen, decide_eq_true_eq]; exact h
    rw [coolDown, if_neg hclosed, if_neg h, if_neg h]
    exact ⟨rfl, rfl⟩

private theorem ready_of_top {s : σ} {events : List Event}
    (h : (top store c s events).1 = ⟨failuresAfter c.maxRetries (errorRun events), c.maxRetries⟩) :
    (ready store c s events).1 = ⟨errorRun events % max c.maxRetries 1, c.maxRetries⟩ := by
  rw [ready, (coolDown_eq _ _).2, h]
  simp only [le_failuresAfter_iff, mod_of_failuresAfter]

variable (store c)

/-- At the top of the loop the counter is that of the errors in a row. -/
theorem top_breaker (s : σ) (events : List Event) :
    (top store c s events).1 =
      ⟨failuresAfter c.maxRetries (errorRun events), c.maxRetries⟩ := by
  induction events using List.reverseRecOn with
  | nil => rfl
  | append_singleton events event ih =>
    rw [top_concat, handle_breaker, ready_of_top ih, errorRun_concat]
    cases event.isError
    · rfl
    · rfl

theorem ready_breaker (s : σ) (events : List Event) :
    (ready store c s events).1 = ⟨errorRun events % max c.maxRetries 1, c.maxRetries⟩ :=
  ready_of_top (top_breaker store c s events)

private theorem turn_pauses (s : σ) (events : List Event) (event : Event) :
    (turn store c (ready store c s events).1 (ready store c s events).2 event).1.pauses =
      pausesAfter c.maxRetries (errorRun (events ++ [event])) := by
  have htop := top_breaker store c s (events ++ [event])
  rw [top_concat] at htop
  change (handle store _ _ event).1.pauses ++ (coolDown store c _ _).1.pauses = _
  rw [handle_pauses, (coolDown_eq _ _).1, htop]
  simp only [le_failuresAfter_iff]
  rw [pausesAfter, errorRun_concat]
  cases event.isError <;> simp

private theorem consume_pauses (s : σ) (events : List Event) :
    (consume store c s events).map Round.pauses =
      events.inits.map fun before => pausesAfter c.maxRetries (errorRun before) := by
  induction events using List.reverseRecOn with
  | nil =>
    change [[] ++ (coolDown store c _ _).1.pauses] = [pausesAfter c.maxRetries 0]
    rw [(coolDown_eq _ _).1, pausesAfter]
    simp [Breaker.closed, CoolsDown]
  | append_singleton events event ih =>
    rw [consume_concat, List.map_append, ih, List.inits_append, List.map_append]
    simp [turn_pauses]

end Loop

/-- The loop cools down before a receive exactly when no error is allowed, or when the receive
errors right before it, back to the last receive that succeeded, are a positive multiple of the
limit. The counter at the top of the loop does not exceed the limit, so with a limit of 32 bits no
increment overflows. What became of a message does not count; any message ends the run of errors. -/
theorem cooldown_after_error_runs {σ : Type} (store : Responder σ) (settings : Config)
    (limit : UInt32) (s : σ) :
    let c := { settings with maxRetries := limit.toNat }
    (∀ events, (consume store c s events).map Round.pauses =
      events.inits.map fun before => pausesAfter limit.toNat (errorRun before)) ∧
    ∀ events event,
      let b := (ready store c s events).1
      consume store c s (events ++ [event]) = consume store c s events ++
        [(turn store c b (ready store c s events).2 event).1] ∧
      (top store c s events).1.failures = failuresAfter limit.toNat (errorRun events) ∧
      (top store c s events).1.failures ≤ max limit.toNat 1 ∧
      b.failures + 1 < UInt32.size ∧
      (top store c s (events ++ [event])).1.failures =
        if event.isError then b.failures + 1 else 0 := by
  intro c
  refine ⟨consume_pauses store c s, fun events event => ⟨consume_concat store c s events event, ?_⟩⟩
  have htop := top_breaker store c s events
  have hready := ready_breaker store c s events
  have hbound : errorRun events % max c.maxRetries 1 < max c.maxRetries 1 :=
    Nat.mod_lt _ (by omega)
  have hlimit : c.maxRetries < UInt32.size := limit.toNat_lt_size
  have hsize : UInt32.size = 4294967296 := rfl
  refine ⟨by rw [htop], by rw [htop]; exact failuresAfter_le _ _, ?_, ?_⟩
  · rw [hready]
    show errorRun events % max c.maxRetries 1 + 1 < UInt32.size
    omega
  · rw [top_concat, handle_breaker]

end FleetTrail.Broker
