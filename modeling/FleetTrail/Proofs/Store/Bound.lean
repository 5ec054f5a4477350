import FleetTrail.Store.Statement

/-!
# Bound values

What a value becomes when it is bound to a statement. Numbers and texts stay what they are, and an
instant loses what the store does not keep of it.
-/

namespace FleetTrail

open Store

namespace Time.Instant

variable {t kept : Instant}

/-- Nanoseconds from the first of January 2000. -/
def sinceStoreEpoch (t : Instant) : Int := (t.seconds - 946684800) * 1000000000 + t.nanos

/-- The store keeps the whole microseconds from its epoch, cut toward it. -/
structure KeptAs (t kept : Instant) : Prop where
  whole : kept.sinceStoreEpoch = t.sinceStoreEpoch.tdiv 1000 * 1000
  nanos_lt : kept.nanos < 1000000000

theorem keptAs_iff : t.KeptAs kept ↔ kept = t.stored := by
  have hstored : t.KeptAs t.stored := by
    constructor
    · simp only [stored, sinceStoreEpoch, storeEpoch]
      generalize Int.tdiv _ 1000 = micros
      omega
    · simp only [stored]
      generalize Int.tdiv _ 1000 = micros
      omega
  constructor
  · intro h
    have hsame : kept.sinceStoreEpoch = t.stored.sinceStoreEpoch := h.whole.trans hstored.whole.symm
    have hkept := h.nanos_lt
    have hlt := hstored.nanos_lt
    generalize t.stored = other at hsame hlt
    cases kept
    cases other
    simp only [sinceStoreEpoch, mk.injEq] at hsame hkept hlt ⊢
    omega
  · rintro rfl
    exact hstored

theorem rel_keptAs_iff {time kept : Option Instant} :
    Option.Rel KeptAs time kept ↔ kept = time.map stored := by
  cases time <;> cases kept <;> simp [keptAs_iff]

end Time.Instant

namespace Query.Value

inductive BoundAs : Value → Bound → Prop
  | int (n : Int64) : BoundAs (.int n) (.int (some n))
  | float (x : Float) : BoundAs (.float x) (.float (some x))
  | text (s : String) : BoundAs (.text s) (.text (some s))
  | bool (b : Bool) : BoundAs (.bool b) (.bool b)
  | time {t kept : Time.Instant} (h : t.KeptAs kept) : BoundAs (.time t) (.time (some kept))
  | ints (ns : List Int64) : BoundAs (.ints ns) (.ints ns)
  | texts (ss : List String) : BoundAs (.texts ss) (.texts ss)

theorem boundAs_ofValue (v : Value) : v.BoundAs (.ofValue v) := by
  cases v with
  | time t => exact .time (Time.Instant.keptAs_iff.mpr rfl)
  | int | float | text | bool | ints | texts => constructor

end Query.Value

end FleetTrail
