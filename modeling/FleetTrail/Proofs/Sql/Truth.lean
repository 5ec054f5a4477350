/-!
# Three-valued truth

Comparisons with NULL are neither true nor false. A row is kept when its condition is true, so the
lemmas say when a compound condition is.
-/

namespace FleetTrail.Sql

inductive Truth where
  | no
  | unknown
  | yes
  deriving DecidableEq, Repr

namespace Truth

def and : Truth → Truth → Truth
  | .yes, b => b
  | .no, _ => .no
  | .unknown, .no => .no
  | .unknown, _ => .unknown

def or : Truth → Truth → Truth
  | .no, b => b
  | .yes, _ => .yes
  | .unknown, .yes => .yes
  | .unknown, _ => .unknown

def ofBool (b : Bool) : Truth := if b then .yes else .no

/-- The disjunction of a list; of an empty one it is false. -/
def any (truths : List Truth) : Truth := truths.foldr or .no

/-- The conjunction of a list; of an empty one it is true. -/
def all (truths : List Truth) : Truth := truths.foldr and .yes

@[simp]
theorem ofBool_eq_yes {b : Bool} : ofBool b = .yes ↔ b = true := by
  cases b <;> decide

@[simp]
theorem and_eq_yes {a b : Truth} : a.and b = .yes ↔ a = .yes ∧ b = .yes := by
  cases a <;> cases b <;> decide

@[simp]
theorem or_eq_yes {a b : Truth} : a.or b = .yes ↔ a = .yes ∨ b = .yes := by
  cases a <;> cases b <;> decide

theorem any_eq_yes {truths : List Truth} : any truths = .yes ↔ .yes ∈ truths := by
  induction truths with
  | nil => exact iff_of_false (fun h => nomatch h) (fun h => nomatch h)
  | cons t rest ih =>
    show t.or (any rest) = .yes ↔ _
    rw [or_eq_yes, ih, List.mem_cons, eq_comm]

theorem all_eq_yes {truths : List Truth} : all truths = .yes ↔ ∀ t ∈ truths, t = .yes := by
  induction truths with
  | nil => exact iff_of_true rfl (fun _ h => nomatch h)
  | cons t rest ih =>
    show t.and (all rest) = .yes ↔ _
    rw [and_eq_yes, ih, List.forall_mem_cons]

end Truth

end FleetTrail.Sql
