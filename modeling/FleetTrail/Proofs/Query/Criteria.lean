import FleetTrail.Proofs.Query.Meaning
import Mathlib.Data.Option.Basic

/-!
# Criteria in plain terms

What the calls ask of a row, said of the typed values that the filters hold: numbers and texts are
equal when they are the same, an array has the elements of the list, and a term is looked for
literally.
-/

namespace FleetTrail.Query

open Sql

def Since (cell : Option Value) (t : Time.Instant) : Prop :=
  ∃ u, cell = some (.time u) ∧ timeAtMost t u

def Until (cell : Option Value) (t : Time.Instant) : Prop :=
  ∃ u, cell = some (.time u) ∧ timeAtMost u t

def NotBelow (cell : Option Value) (x : Float) : Prop :=
  ∃ y, cell = some (.float y) ∧ floatAtMost x y

def NotAbove (cell : Option Value) (x : Float) : Prop :=
  ∃ y, cell = some (.float y) ∧ floatAtMost y x

/-- The pattern for texts that contain the characters as they are: those with a meaning in patterns
stand behind a backslash. -/
def containing (cs : List Char) : Value :=
  .text (String.ofList
    ('%' :: cs.flatMap (fun c => if c ∈ ['%', '_', '\\'] then ['\\', c] else [c]) ++ ['%']))

/-- One of the cells contains the trimmed term, unless nothing is left of the term. -/
def Mentions (given : Given) (cells : List (Option Value)) (term : Option String) : Prop :=
  ∀ text ∈ term, Text.trim text.toList ≠ [] →
    ∃ cell ∈ cells, ∃ v, cell = some v ∧ given.ilike v (containing (Text.trim text.toList))

/-- The cell holds a place within the kilometres of the point, when all three are given. -/
def Within (given : Given) (cell : Option Value) (lat lng km : Option Float) : Prop :=
  ∀ y ∈ lat, ∀ x ∈ lng, ∀ r ∈ km, ∃ place, cell = some place ∧
    given.near place (.float x) (.float y) (.float (r * 1000.0))

def Exact (v : Value) : Prop := ∀ a, same a v = true ↔ a = v

theorem exact_int (n : Int64) : Exact (.int n) := by
  intro a
  cases a <;> simp [same]

theorem exact_text (s : String) : Exact (.text s) := by
  intro a
  cases a <;> simp [same]

theorem exact_bool (b : Bool) : Exact (.bool b) := by
  intro a
  cases a <;> simp [same]

section Typed

variable {α : Type} {name : String} {c : Column} {names : List String} {columns : List Column}

theorem Call.Means.congr {call : Call} {criterion criterion' : Criterion}
    (h : call.Means criterion) (hsame : ∀ given row, criterion given row ↔ criterion' given row) :
    call.Means criterion' := by
  obtain ⟨parts, hparts, hmeaning⟩ := h
  exact ⟨parts, hparts, fun given row => (hmeaning given row).trans (hsame given row)⟩

private theorem equals_exact {v : Value} (hv : Exact v) (given : Given) (row : Row) :
    Equals c v given row ↔ row c.source c.field = some v := by
  constructor
  · rintro ⟨a, hcell, hsame⟩
    rw [hcell, (hv a).mp hsame]
  · intro hcell
    exact ⟨v, hcell, (hv v).mpr rfl⟩

theorem equal_value (h : Names name c) {make : α → Value} (hmake : ∀ a, Exact (make a))
    (value : Option α) :
    (Call.eq name (value.map make)).Means fun _ row =>
      ∀ a ∈ value, row c.source c.field = some (make a) := by
  refine (Call.eq_means h _).congr fun given row => ?_
  rw [Option.forall_mem_map]
  exact forall₂_congr fun a _ => equals_exact (hmake a) given row

theorem equalAny_value (h : List.Forall₂ Names names columns) (hne : columns ≠ [])
    {make : α → Value} (hmake : ∀ a, Exact (make a)) (value : Option α) :
    (Call.eqAny names (value.map make)).Means fun _ row =>
      ∀ a ∈ value, ∃ c ∈ columns, row c.source c.field = some (make a) := by
  refine (Call.eqAny_means h hne _).congr fun given row => ?_
  rw [Option.forall_mem_map]
  simp only [equals_exact (hmake _)]

/-- A guard that a flag is not set. A missing flag does not pass. -/
theorem unset_means {fragment : String}
    (h : tokens fragment.toList = [.column c, .word .equals, .word .falsity]) :
    (Call.guard fragment).Means fun _ row => row c.source c.field = some (.bool false) := by
  apply Call.guard_means
  intro n text htext
  cases htext
  refine ⟨.compare (.column c) .equals .falsity, ?_, fun given args row _ => ?_⟩
  · rw [h]
    exact ⟨.tokens _ 0, rfl, fun _ _ => rfl⟩
  · rw [Condition.truth, strict_eq_yes]
    constructor
    · intro hsame
      obtain ⟨a, b, hcell, hb, hsame⟩ := hsame
      cases hb
      rw [← (exact_bool false a).mp hsame]
      exact hcell
    · intro hcell
      exact ⟨_, _, hcell, rfl, rfl⟩

theorem oneOf_exact {β : Type} {make : β → Value} (hmake : ∀ b, Exact (make b))
    {array : Value} {bs : List β} (harray : elements array = bs.map make) (given : Given)
    (row : Row) : OneOf c array given row ↔ ∃ b ∈ bs, row c.source c.field = some (make b) := by
  simp only [OneOf, harray, List.mem_map, exists_exists_and_eq_and, equals_exact (hmake _)]

theorem within_ints (h : Names name c) (list : Option (List Int64)) :
    (Call.within name (list.map .ints)).Means fun _ row =>
      ∀ ns ∈ list, ∃ n ∈ ns, row c.source c.field = some (.int n) := by
  refine (Call.within_means h _).congr fun given row => ?_
  rw [Option.forall_mem_map]
  exact forall₂_congr fun ns _ => oneOf_exact exact_int rfl given row

theorem notWithin_ints (h : Names name c) (list : Option (List Int64)) :
    (Call.notWithin name (list.map .ints)).Means fun _ row =>
      ∀ ns ∈ list, ¬∃ n ∈ ns, row c.source c.field = some (.int n) := by
  refine (Call.notWithin_means h _).congr fun given row => ?_
  rw [Option.forall_mem_map]
  exact forall₂_congr fun ns _ => not_congr (oneOf_exact exact_int rfl given row)

theorem within_texts (h : Names name c) (text : α → String) (list : Option (List α)) :
    (Call.within name (list.map fun as => .texts (as.map text))).Means fun _ row =>
      ∀ as ∈ list, ∃ a ∈ as, row c.source c.field = some (.text (text a)) := by
  have hmake (a : α) : Exact (.text (text a)) := exact_text (text a)
  have helements (as : List α) :
      elements (.texts (as.map text)) = as.map fun a => .text (text a) := by
    simp [elements, Function.comp_def]
  refine (Call.within_means h _).congr fun given row => ?_
  rw [Option.forall_mem_map]
  exact forall₂_congr fun as _ => oneOf_exact hmake (helements as) given row

/-- Values of one kind are ordered among themselves only. -/
private structure OrderedAs (make : α → Value) (le : α → α → Bool) : Prop where
  above : ∀ a v, ordered (make a) v = true ↔ ∃ b, v = make b ∧ le a b = true
  below : ∀ a v, ordered v (make a) = true ↔ ∃ b, v = make b ∧ le b a = true

private theorem orderedAs_time : OrderedAs Value.time timeAtMost := by
  constructor <;> intro a v <;> cases v <;> simp [ordered]

private theorem orderedAs_float : OrderedAs Value.float floatAtMost := by
  constructor <;> intro a v <;> cases v <;> simp [ordered]

private theorem range_ordered (h : Names name c) {make : α → Value} {le : α → α → Bool}
    (hmake : OrderedAs make le) (least most : Option α) :
    (Call.range name (least.map make) (most.map make)).Means fun _ row =>
      (∀ a ∈ least, ∃ b, row c.source c.field = some (make b) ∧ le a b) ∧
        ∀ a ∈ most, ∃ b, row c.source c.field = some (make b) ∧ le b a := by
  refine (Call.range_means h _ _).congr fun given row => ?_
  have hleast (a : α) : AtLeast c (make a) given row ↔
      ∃ b, row c.source c.field = some (make b) ∧ le a b := by
    simp only [AtLeast, hmake.above]
    constructor
    · rintro ⟨_, hcell, b, rfl, hle⟩
      exact ⟨b, hcell, hle⟩
    · rintro ⟨b, hcell, hle⟩
      exact ⟨make b, hcell, b, rfl, hle⟩
  have hmost (a : α) : AtMost c (make a) given row ↔
      ∃ b, row c.source c.field = some (make b) ∧ le b a := by
    simp only [AtMost, hmake.below]
    constructor
    · rintro ⟨_, hcell, b, rfl, hle⟩
      exact ⟨b, hcell, hle⟩
    · rintro ⟨b, hcell, hle⟩
      exact ⟨make b, hcell, b, rfl, hle⟩
  simp only [Option.mem_def, Option.map_eq_some_iff, forall_exists_index, and_imp,
    forall_apply_eq_imp_iff₂, hleast, hmost]

theorem range_times (h : Names name c) (least most : Option Time.Instant) :
    (Call.range name (least.map .time) (most.map .time)).Means fun _ row =>
      (∀ t ∈ least, Since (row c.source c.field) t) ∧
        ∀ t ∈ most, Until (row c.source c.field) t :=
  range_ordered h orderedAs_time least most

theorem range_floats (h : Names name c) (least most : Option Float) :
    (Call.range name (least.map .float) (most.map .float)).Means fun _ row =>
      (∀ x ∈ least, NotBelow (row c.source c.field) x) ∧
        ∀ x ∈ most, NotAbove (row c.source c.field) x :=
  range_ordered h orderedAs_float least most

private theorem containing_eq (cs : List Char) :
    containing cs = .text (String.ofList ('%' :: cs.flatMap escapeLike ++ ['%'])) := by
  have hescape : escapeLike =
      fun c => if c ∈ ['%', '_', '\\'] then ['\\', c] else [c] := by
    funext c
    simp only [escapeLike, List.mem_cons, List.not_mem_nil, or_false]
  rw [containing, hescape]

private theorem mentions_iff (given : Given) (row : Row) (columns : List Column)
    (term : Option String) :
    (∀ pattern ∈ likePattern term, ∃ c ∈ columns, Matches c (.text pattern) given row) ↔
      Mentions given (columns.map fun c => row c.source c.field) term := by
  cases term with
  | none => simp [likePattern, Mentions]
  | some text =>
    have hcell (pattern : Value) : (∃ c ∈ columns, Matches c pattern given row) ↔
        ∃ cell ∈ columns.map fun c => row c.source c.field,
          ∃ v, cell = some v ∧ given.ilike v pattern := by
      simp only [List.mem_map, exists_exists_and_eq_and, Matches]
    by_cases hempty : Text.trim text.toList = []
    · simp [likePattern, Mentions, hempty]
    · simp only [likePattern, Mentions, Option.bind_eq_bind, Option.bind_some,
        List.isEmpty_iff, hempty, if_false, Option.mem_def, Option.some.injEq, forall_eq', hcell,
        containing_eq]
      exact ⟨fun h _ => h, fun h => h hempty⟩

theorem contains_mentions (h : List.Forall₂ Names names columns) (hne : columns ≠ [])
    (term : Option String) :
    (Call.contains names term).Means fun given row =>
      Mentions given (columns.map fun c => row c.source c.field) term :=
  (Call.contains_means h hne term).congr fun given row => mentions_iff given row columns term

theorem search_mentions (h : List.Forall₂ Names names columns) (hne : columns ≠ [])
    (term : Option String) :
    (Call.search names term).Means fun given row =>
      Mentions given (columns.map fun c => row c.source c.field) term :=
  (Call.search_means h hne term).congr fun given row => mentions_iff given row columns term

theorem radius_within (h : Names name c) (lat lng km : Option Float) :
    (Call.withinRadius name lat lng km).Means fun given row =>
      Within given (row c.source c.field) lat lng km :=
  Call.withinRadius_means h lat lng km

end Typed

end FleetTrail.Query
