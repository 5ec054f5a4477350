import FleetTrail.Proofs.Number.Whole
import FleetTrail.Telemetry.Batch

/-!
# Fields of a sample

A sample has thirteen fields of three kinds. What a value in a payload stands for depends on the
kind alone: ids are whole numbers of 64 bits, levels are any numbers, and both may come as texts.
-/

namespace FleetTrail.Telemetry

inductive Kind where
  | id
  | level
  | text
  deriving DecidableEq

/-- What a field of a kind contains when it is not absent. -/
abbrev Kind.Content : Kind → Type
  | .id => Int64
  | .level => Float
  | .text => String

/-- The fields of a sample, in the order in which a list gives them. -/
inductive Field where
  | companyId
  | vehicleId
  | driverId
  | offerId
  | tripId
  | batteryLevel
  | speed
  | heading
  | accuracy
  | lat
  | lng
  | status
  | loggedAt
  deriving DecidableEq

namespace Field

def kind : Field → Kind
  | .companyId | .vehicleId | .driverId | .offerId | .tripId => .id
  | .batteryLevel | .speed | .heading | .accuracy | .lat | .lng => .level
  | .status | .loggedAt => .text

def name : Field → String
  | .companyId => "companyId"
  | .vehicleId => "vehicleId"
  | .driverId => "driverId"
  | .offerId => "offerId"
  | .tripId => "tripId"
  | .batteryLevel => "batteryLevel"
  | .speed => "speed"
  | .heading => "heading"
  | .accuracy => "accuracy"
  | .lat => "lat"
  | .lng => "lng"
  | .status => "status"
  | .loggedAt => "loggedAt"

def alias? : Field → Option String
  | .lat => some "latitude"
  | .lng => some "longitude"
  | _ => none

end Field

/-- The id that a value stands for; `null` and blank texts stand for none. -/
inductive HoldsId : Json.Value → Option Int64 → Prop
  | null : HoldsId .null none
  | blank {s : String} (h : Text.allBlank s = true) : HoldsId (.text s) none
  | number (n : Int64) : HoldsId (.int n.toInt) (some n)
  | written {s : String} {n : Int64} (h : Number.Whole (Text.trim s.toList) n.toInt) :
      HoldsId (.text s) (some n)

/-- The measured number that a value stands for; `null` and blank texts stand for none. -/
inductive HoldsLevel : Json.Value → Option Float → Prop
  | null : HoldsLevel .null none
  | blank {s : String} (h : Text.allBlank s = true) : HoldsLevel (.text s) none
  | whole (n : Int) : HoldsLevel (.int n) (some (Float.ofInt n))
  | real (x : Float) : HoldsLevel (.float x) (some x)
  | written {s : String} {x : Float} (hs : ¬Text.allBlank s = true)
      (h : Number.readFloat (Text.trim s.toList) = some x) : HoldsLevel (.text s) (some x)

inductive HoldsText : Json.Value → Option String → Prop
  | null : HoldsText .null none
  | text (s : String) : HoldsText (.text s) (some s)

/-- Trimming leaves nothing of a blank text, and a whole number is not nothing. -/
private theorem not_blank_of_whole {s : String} {n : Int}
    (h : Number.Whole (Text.trim s.toList) n) : ¬Text.allBlank s = true := by
  intro hblank
  rw [(Text.trim_eq_nil_iff s.toList).mpr hblank] at h
  cases h with
  | plain hne => exact hne rfl

theorem int64?_int_eq_some_iff {m : Int} {n : Int64} :
    (Json.Value.int m).int64? = some n ↔ n.toInt = m := by
  have hlow := n.minValue_le_toInt
  have hhigh := n.toInt_le
  rw [Json.Value.int64?]
  split
  next h =>
    have hm : (Int64.ofInt m).toInt = m := Int64.toInt_ofInt_of_le h.1 (Int.lt_add_one_of_le h.2)
    rw [Option.some.injEq, ← Int64.toInt_inj, hm, eq_comm]
  next h =>
    simp only [reduceCtorEq, false_iff]
    rintro rfl
    exact h ⟨hlow, hhigh⟩

/-- What is left of a value in a field with a number, once blanks are off. -/
private inductive Leaves : Json.Value → Numeric → Prop
  | null : Leaves .null .absent
  | blank {s : String} (h : Text.allBlank s = true) : Leaves (.text s) .absent
  | whole (n : Int64) : Leaves (.int n.toInt) (.whole n)
  | beyond {m : Int} (h : (Json.Value.int m).int64? = none) :
      Leaves (.int m) (.real (Float.ofInt m))
  | real (x : Float) : Leaves (.float x) (.real x)
  | written {s : String} (h : ¬Text.allBlank s = true) :
      Leaves (.text s) (.written (Text.trim s.toList))

private theorem numeric_eq_ok_iff {v : Json.Value} {content : Numeric} :
    numeric v = .ok content ↔ Leaves v content := by
  constructor
  · intro h
    cases v with
    | null =>
      cases h
      exact .null
    | text s =>
      by_cases hs : Text.allBlank s = true
      · rw [numeric, if_pos hs] at h
        cases h
        exact .blank hs
      · rw [numeric, if_neg hs] at h
        cases h
        exact .written hs
    | int m =>
      rw [numeric] at h
      split at h
      next n hn =>
        cases h
        rw [← int64?_int_eq_some_iff.mp hn]
        exact .whole n
      next hn =>
        cases h
        exact .beyond hn
    | float x =>
      cases h
      exact .real x
    | bool | list | record => cases h
  · intro h
    cases h with
    | null | real => rfl
    | blank hs => rw [numeric, if_pos hs]
    | whole n =>
      have hn : (Json.Value.int n.toInt).int64? = some n := int64?_int_eq_some_iff.mpr rfl
      rw [numeric, hn]
    | beyond hn => rw [numeric, hn]
    | written hs => rw [numeric, if_neg hs]

theorem readId_eq_ok_iff {v : Json.Value} {x : Option Int64} :
    readId v = .ok x ↔ HoldsId v x := by
  simp only [readId, bind_eq_ok_iff, numeric_eq_ok_iff]
  constructor
  · intro h
    obtain ⟨content, hv, h⟩ := h
    cases hv with
    | null =>
      cases h
      exact .null
    | blank hs =>
      cases h
      exact .blank hs
    | whole n =>
      cases h
      exact .number n
    | beyond | real => cases h
    | @written s hs =>
      cases hn : Number.readInt64 (Text.trim s.toList) with
      | ok n =>
        simp only [hn] at h
        cases h
        exact .written (Number.readInt64_eq_ok_iff.mp hn)
      | error fault =>
        simp only [hn] at h
        cases h
  · intro h
    cases h with
    | null => exact ⟨_, .null, rfl⟩
    | blank hs => exact ⟨_, .blank hs, rfl⟩
    | number n => exact ⟨_, .whole n, rfl⟩
    | written h =>
      refine ⟨_, .written (not_blank_of_whole h), ?_⟩
      simp only [Number.readInt64_eq_ok_iff.mpr h]
      rfl

theorem readLevel_eq_ok_iff {v : Json.Value} {x : Option Float} :
    readLevel v = .ok x ↔ HoldsLevel v x := by
  simp only [readLevel, bind_eq_ok_iff, numeric_eq_ok_iff]
  constructor
  · intro h
    obtain ⟨content, hv, h⟩ := h
    cases hv with
    | null =>
      cases h
      exact .null
    | blank hs =>
      cases h
      exact .blank hs
    | whole n =>
      cases h
      exact .whole n.toInt
    | beyond =>
      cases h
      exact .whole _
    | real y =>
      cases h
      exact .real y
    | @written s hs =>
      cases hy : Number.readFloat (Text.trim s.toList) with
      | some y =>
        simp only [hy] at h
        cases h
        exact .written hs hy
      | none =>
        simp only [hy] at h
        cases h
  · intro h
    cases h with
    | null => exact ⟨_, .null, rfl⟩
    | blank hs => exact ⟨_, .blank hs, rfl⟩
    | whole m =>
      cases hn : (Json.Value.int m).int64? with
      | some n =>
        rw [← int64?_int_eq_some_iff.mp hn]
        exact ⟨_, .whole n, rfl⟩
      | none => exact ⟨_, .beyond hn, rfl⟩
    | real y => exact ⟨_, .real y, rfl⟩
    | written hs h =>
      refine ⟨_, .written hs, ?_⟩
      simp only [h]
      rfl

theorem readText_eq_ok_iff {v : Json.Value} {x : Option String} :
    readText v = .ok x ↔ HoldsText v x := by
  constructor
  · intro h
    cases v with
    | null =>
      cases h
      exact .null
    | text s =>
      cases h
      exact .text s
    | bool | int | float | list | record => cases h
  · intro h
    cases h <;> rfl

namespace Kind

def read : (k : Kind) → Json.Value → Except PayloadFault (Option k.Content)
  | .id => readId
  | .level => readLevel
  | .text => readText

/-- What a value stands for in a field of a kind. -/
def Holds : (k : Kind) → Json.Value → Option k.Content → Prop
  | .id => HoldsId
  | .level => HoldsLevel
  | .text => HoldsText

variable {k : Kind} {v : Json.Value} {x y : Option k.Content}

theorem read_eq_ok_iff : k.read v = .ok x ↔ k.Holds v x := by
  cases k with
  | id => exact readId_eq_ok_iff
  | level => exact readLevel_eq_ok_iff
  | text => exact readText_eq_ok_iff

theorem Holds.unique (hx : k.Holds v x) (hy : k.Holds v y) : x = y := by
  rw [← read_eq_ok_iff] at hx hy
  have hsame := hx.symm.trans hy
  exact Except.ok.inj hsame

theorem holds_null_iff : k.Holds .null x ↔ x = none := by
  have hnone : k.Holds .null none := by
    cases k with
    | id => exact HoldsId.null
    | level => exact HoldsLevel.null
    | text => exact HoldsText.null
  constructor
  · intro h
    exact h.unique hnone
  · intro h
    rw [h]
    exact hnone

end Kind

namespace Payload

def get (p : Payload) : (f : Field) → Option f.kind.Content
  | .companyId => p.companyId
  | .vehicleId => p.vehicleId
  | .driverId => p.driverId
  | .offerId => p.offerId
  | .tripId => p.tripId
  | .batteryLevel => p.batteryLevel
  | .speed => p.speed
  | .heading => p.heading
  | .accuracy => p.accuracy
  | .lat => p.lat
  | .lng => p.lng
  | .status => p.status
  | .loggedAt => p.loggedAt

def put (p : Payload) : (f : Field) → Option f.kind.Content → Payload
  | .companyId, x => { p with companyId := x }
  | .vehicleId, x => { p with vehicleId := x }
  | .driverId, x => { p with driverId := x }
  | .offerId, x => { p with offerId := x }
  | .tripId, x => { p with tripId := x }
  | .batteryLevel, x => { p with batteryLevel := x }
  | .speed, x => { p with speed := x }
  | .heading, x => { p with heading := x }
  | .accuracy, x => { p with accuracy := x }
  | .lat, x => { p with lat := x }
  | .lng, x => { p with lng := x }
  | .status, x => { p with status := x }
  | .loggedAt, x => { p with loggedAt := x }

variable {p q : Payload} {f g : Field}

theorem get_put_same (x : Option f.kind.Content) : (p.put f x).get f = x := by
  cases f <;> rfl

theorem get_put_other (h : g ≠ f) (x : Option f.kind.Content) : (p.put f x).get g = p.get g := by
  cases f <;> cases g <;> first | rfl | exact absurd rfl h

theorem get_default : ({} : Payload).get f = none := by
  cases f <;> rfl

theorem eq_of_get (h : ∀ f, p.get f = q.get f) : p = q := by
  cases p
  cases q
  simp only [mk.injEq]
  exact ⟨h .companyId, h .vehicleId, h .driverId, h .offerId, h .tripId, h .batteryLevel,
    h .speed, h .heading, h .accuracy, h .lat, h .lng, h .status, h .loggedAt⟩

end Payload

end FleetTrail.Telemetry
