import FleetTrail.Proofs.Query.Alignment
import FleetTrail.Proofs.Query.Reading

/-!
# What a clause means

The clause of a sequence of calls is the conjunction of what the calls mean, each with its own
values. What has been written keeps its meaning while the clause grows, since new values are bound
behind the old ones.
-/

namespace FleetTrail.Query

open Sql

/-- Fragments and values written so far, with the criterion they state whatever is bound behind. -/
structure Written (b : Builder) (criterion : Criterion) : Prop where
  next_eq : b.next = 1 + b.args.length
  reading : ∃ conditions : List Condition,
    List.Forall₂ Reads (b.fragments.map fun text => tokens text.toList) conditions ∧
    ∀ given later row, (∀ c ∈ conditions, c.truth given (b.args ++ later) row = .yes) ↔
      criterion given row

private theorem written_start : Written (Builder.startingAt 1) fun _ _ => True :=
  ⟨rfl, [], .nil, fun _ _ _ => by simp⟩

private theorem bound_append (args values later : List Value) {i : Nat} {v : Value}
    (h : values[i]? = some v) : bound (args ++ (values ++ later)) (1 + args.length + i) = some v := by
  have hindex : 1 + args.length + i = args.length + i + 1 := by omega
  have hlt : i < values.length := (List.getElem?_eq_some_iff.mp h).1
  rw [hindex, bound, List.getElem?_append_right (by omega), Nat.add_sub_cancel_left,
    List.getElem?_append_left hlt, h]

private theorem written_add {b b' : Builder} {p : Part} {written criterion : Criterion}
    (h : Written b written) (hp : p.Means criterion) (hadd : b.add p = .ok b') :
    Written b' fun given row => written given row ∧ criterion given row := by
  obtain ⟨text, htext, rfl⟩ := Builder.add_eq_ok_iff.mp hadd
  obtain ⟨conditions, hreads, htruth⟩ := h.reading
  obtain ⟨c, hc, hmeaning⟩ := hp b.next text htext
  have hnext := h.next_eq
  refine ⟨?_, conditions ++ [c], ?_, fun given later row => ?_⟩
  · simp only [List.length_append]
    omega
  · rw [List.map_append]
    refine List.rel_append hreads (.cons ?_ .nil)
    show Reads (tokens (String.ofList text).toList) c
    rw [String.toList_ofList]
    exact hc
  · have hbound : ∀ i v, p.values[i]? = some v →
        bound (b.args ++ (p.values ++ later)) (b.next + i) = some v := fun i v hv => by
      rw [hnext]
      exact bound_append b.args p.values later hv
    simp only [List.append_assoc]
    rw [← htruth given (p.values ++ later) row, ← hmeaning given _ row hbound]
    simp [or_imp, forall_and]

private theorem written_parts {parts : List Part} {criteria : List Criterion}
    (hparts : List.Forall₂ Part.Means parts criteria) {b b' : Builder} {written : Criterion}
    (h : Written b written) (hadd : parts.foldlM Builder.add b = .ok b') :
    Written b' fun given row => written given row ∧ ∀ part ∈ criteria, part given row := by
  induction hparts generalizing b written with
  | nil =>
    cases hadd
    simpa using h
  | @cons p criterion parts criteria hp hrest ih =>
    obtain ⟨b₁, hfirst, hrun⟩ := Builder.foldlM_cons_ok hadd
    have hwritten := ih (written_add h hp hfirst) hrun
    simpa only [List.forall_mem_cons, and_assoc] using hwritten

private theorem written_run {calls : List Call} {criteria : List Criterion}
    (hcalls : List.Forall₂ Call.Means calls criteria) {b b' : Builder} {written : Criterion}
    (h : Written b written) (hrun : calls.foldlM Builder.apply b = .ok b') :
    Written b' fun given row => written given row ∧ ∀ call ∈ criteria, call given row := by
  induction hcalls generalizing b written with
  | nil =>
    cases hrun
    simpa using h
  | @cons call criterion calls criteria hcall hrest ih =>
    obtain ⟨b₁, hfirst, hrun⟩ := Builder.foldlM_cons_ok hrun
    obtain ⟨stage, hadd⟩ := Builder.apply_eq_ok hfirst
    obtain ⟨parts, hparts, hmeaning⟩ := hcall
    have hentered : Written { b with stage } written := ⟨h.next_eq, h.reading⟩
    have hwritten := ih (written_parts hparts hentered hadd) hrun
    simpa only [List.forall_mem_cons, and_assoc, hmeaning] using hwritten

/-- The clause is read as a condition that keeps the rows of the criterion. -/
def Compiled.Keeps (c : Compiled) (criterion : Criterion) : Prop :=
  ∃ condition, read c.clause = some condition ∧ ∀ given row,
    condition.truth given c.args row = .yes ↔ criterion given row

private theorem written_build {b : Builder} {criterion : Criterion} (h : Written b criterion)
    (hne : b.fragments ≠ []) : b.build.Keeps criterion := by
  obtain ⟨conditions, hreads, htruth⟩ := h.reading
  obtain ⟨fragment, fragments, hfragments⟩ := List.exists_cons_of_ne_nil hne
  rw [hfragments, List.map_cons] at hreads
  cases hreads with
  | @cons _ c _ conditions hfirst hrest =>
    refine ⟨Condition.conj c conditions, read_where hfirst hrest ?_, fun given row => ?_⟩
    · have hclause : b.build.clause = "WHERE " ++ String.intercalate " AND " b.fragments := by
        simp only [Builder.build]
        rw [if_neg (by simpa using hne)]
      have hword : Token.ofText "AND".toList = .word .conj := rfl
      have hjoined := tokens_intercalate (by decide) (by decide) hword
        ((fragment :: fragments).map String.toList)
      rw [hclause, String.toList_append, String.toList_intercalate, hfragments]
      show .word .whereCondition :: tokens (List.intercalate " AND ".toList _) = _
      exact congrArg (Token.word .whereCondition :: ·) (hjoined.trans (by rw [List.map_map]; rfl))
    · have hargs : b.args ++ [] = b.args := List.append_nil _
      rw [truth_conj, ← htruth given [] row, hargs]
      rfl

def CallsMean (calls : List Call) (criterion : Criterion) : Prop :=
  ∃ criteria, List.Forall₂ Call.Means calls criteria ∧ ∀ given row,
    (∀ call ∈ criteria, call given row) ↔ criterion given row

/-- Orderly calls behind a guard are completed to a clause that means what the calls mean. -/
theorem compile_keeps {fragment : String} {calls : List Call}
    (h : Orderly (.guard fragment :: calls)) {criterion : Criterion}
    (hmeans : CallsMean (.guard fragment :: calls) criterion) :
    ∃ c, compile (.guard fragment :: calls) = .ok c ∧ c.Keeps criterion := by
  obtain ⟨criteria, hcalls, hmeaning⟩ := hmeans
  obtain ⟨b, hrun, -⟩ := h.run
  have hwritten : Written b criterion := by
    have hrestated := written_run hcalls written_start hrun
    simpa only [true_and, hmeaning] using hrestated
  have hne : b.fragments ≠ [] := by
    obtain ⟨b₁, hguard, hrest⟩ := Builder.foldlM_cons_ok hrun
    have hfirst : (Builder.startingAt 1).apply (.guard fragment) =
        .ok ⟨[fragment], [], 1, .guard, 1⟩ := rfl
    cases hfirst.symm.trans hguard
    obtain ⟨fragments, values, hgrows⟩ := Builder.run_grows
      (fun call hmem => (h.plain call (List.mem_cons_of_mem _ hmem)).wellMarked) hrest
    rw [hgrows.fragments_eq]
    exact List.cons_ne_nil _ _
  exact ⟨b.build, by rw [compile, hrun]; rfl, written_build hwritten hne⟩

end FleetTrail.Query
