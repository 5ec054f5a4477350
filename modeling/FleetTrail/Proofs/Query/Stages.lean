import FleetTrail.Proofs.Query.Independence
import FleetTrail.Proofs.Query.Paging
import Mathlib.Data.List.Induction

/-!
# The discipline of the stages

A call without a value leaves the builder as it is. With values, a call of a named stage does one of
three things: it faults because its stage lies behind the present one, it faults because the numbers
run out, or it appends its fragments. `Takes` lists these outcomes; what a run of calls does follows
by extending it call by call.
-/

namespace FleetTrail

namespace Query

/-- Whether a call has a value. A blank term is none, and a radius needs all three numbers. -/
def Call.hasValue : Call → Bool
  | .guard _ | .predicate .. | .shared .. => true
  | .offerIds _ ids => ids.isSome
  | .eq _ value | .eqAny _ value | .within _ value | .notWithin _ value => value.isSome
  | .contains _ term | .search _ term => !Offer.Filter.blankTerm term
  | .range _ least most => least.isSome || most.isSome
  | .withinRadius _ lat lng radiusKm => lat.isSome && lng.isSome && radiusKm.isSome

def Call.values (call : Call) : List Value := call.parts.flatMap Part.values

def lastWithValue (calls : List Call) : Option Call := (calls.filter Call.hasValue).getLast?

def Call.Before (call other : Call) : Prop :=
  ∃ stage ∈ call.stage?, ∃ stage' ∈ other.stage?, stage.rank < stage'.rank

/-- Some call with a value has a lower stage than the nearest call with a value before it. -/
def GoesBack (calls : List Call) : Prop :=
  ∃ earlier call later, calls = earlier ++ call :: later ∧ call.hasValue = true ∧
    ∃ nearest ∈ lastWithValue earlier, call.Before nearest

def valueCount (calls : List Call) : Nat := (calls.flatMap Call.values).length

/-- The fragments that a run of calls appends, each with the call that appends it. -/
def Builder.emitted (b : Builder) : List Call → Except Fault (List (Call × String))
  | [] => .ok []
  | call :: calls => do
    let b' ← b.apply call
    return (b'.fragments.drop b.fragments.length).map (call, ·) ++ (← b'.emitted calls)

theorem parts_isEmpty (call : Call) : call.parts.isEmpty = !call.hasValue := by
  cases call with
  | guard fragment => rfl
  | offerIds fragment value | eq column value | eqAny columns value | within column value
  | notWithin column value => cases value <;> rfl
  | contains columns term | search columns term =>
    have hterm := likePattern_isSome term
    rw [Call.hasValue, ← hterm, Call.parts]
    cases likePattern term <;> rfl
  | range column least most => cases least <;> cases most <;> rfl
  | withinRadius column lat lng radiusKm => cases lat <;> cases lng <;> cases radiusKm <;> rfl
  | predicate fragment values => rfl
  | shared fragment value => rfl

theorem Call.parts_eq_nil {call : Call} (h : call.hasValue = false) : call.parts = [] := by
  have hempty := parts_isEmpty call
  rw [h] at hempty
  exact List.isEmpty_iff.mp hempty

theorem Call.values_eq_nil {call : Call} (h : call.hasValue = false) : call.values = [] := by
  rw [values, parts_eq_nil h]
  rfl

namespace Builder

theorem apply_of_no_value (b : Builder) {call : Call} (h : call.hasValue = false) :
    b.apply call = .ok b := by
  rw [apply_eq, Call.parts_eq_nil h]
  rfl

/-- Calls without a value may be left out. -/
theorem run_filter (b : Builder) (calls : List Call) :
    calls.foldlM apply b = (calls.filter Call.hasValue).foldlM apply b := by
  induction calls generalizing b with
  | nil => rfl
  | cons call calls ih =>
    cases hvalue : call.hasValue with
    | false =>
      rw [List.filter_cons_of_neg (by simp [hvalue]), ← ih, List.foldlM_cons,
        apply_of_no_value b hvalue]
      rfl
    | true =>
      rw [List.filter_cons_of_pos hvalue, List.foldlM_cons, List.foldlM_cons]
      exact congrArg _ (funext ih)

private theorem add_overflow {b : Builder} {p : Part} (hfit : p.Fits)
    (hnext : b.next ≤ placeholderLimit) (hlimit : placeholderLimit < b.next + p.values.length) :
    b.add p = .error .placeholderOverflow := by
  cases p with
  | fixed fragment => exact absurd hlimit (Nat.not_lt.mpr hnext)
  | numbered fragment values => rw [add, append, numberMarkers_overflow hfit hnext hlimit]
  | shared fragment value =>
    simp only [Part.values, List.length_singleton] at hlimit
    exact if_pos (by omega)

private theorem addAll_overflow {parts : List Part} (hfit : ∀ p ∈ parts, p.Fits) {b : Builder}
    (hnext : b.next ≤ placeholderLimit)
    (hlimit : placeholderLimit < b.next + (parts.flatMap Part.values).length) :
    parts.foldlM add b = .error .placeholderOverflow := by
  induction parts generalizing b with
  | nil => exact absurd hlimit (Nat.not_lt.mpr hnext)
  | cons p parts ih =>
    obtain ⟨hp, hparts⟩ := List.forall_mem_cons.mp hfit
    rw [List.flatMap_cons, List.length_append] at hlimit
    rw [List.foldlM_cons]
    by_cases hroom : b.next + p.values.length ≤ placeholderLimit
    · obtain ⟨b₁, hadd, hnext₁, -⟩ := add_isOk hp hroom
      rw [hadd]
      exact ih hparts (by omega) (by omega)
    · rw [add_overflow hp hnext (Nat.not_le.mp hroom)]
      rfl

private theorem addAll_appends {parts : List Part} {n : Nat} (hguards : ∀ p ∈ parts, p.guards = n)
    {b b' : Builder} (h : parts.foldlM add b = .ok b') :
    ∃ texts, b'.fragments = b.fragments ++ texts ∧ b'.guards = b.guards + texts.length * n := by
  induction parts generalizing b with
  | nil =>
    cases h
    exact ⟨[], (List.append_nil _).symm, by rw [List.length_nil, Nat.zero_mul, Nat.add_zero]⟩
  | cons p parts ih =>
    obtain ⟨hp, hparts⟩ := List.forall_mem_cons.mp hguards
    obtain ⟨b₁, hadd, hrest⟩ := foldlM_cons_ok h
    obtain ⟨text, -, rfl⟩ := add_eq_ok_iff.mp hadd
    obtain ⟨texts, hfragments, hcount⟩ := ih hparts hrest
    refine ⟨String.ofList text :: texts, ?_, ?_⟩
    · rw [hfragments, List.append_assoc, List.singleton_append]
    · rw [hcount, hp, List.length_cons, Nat.succ_mul, Nat.add_comm (texts.length * n),
        ← Nat.add_assoc]

inductive Takes (b : Builder) (call : Call) : Except Fault Builder → Prop
  | absent (novalue : call.hasValue = false) : Takes b call (.ok b)
  | behind {stage : Stage} (value : call.hasValue = true) (entered : call.stage? = some stage)
      (lower : stage.rank < b.stage.rank) : Takes b call (.error (.stageOrder stage b.stage))
  | ranOut (exceeds : placeholderLimit < b.next + call.values.length) :
      Takes b call (.error .placeholderOverflow)
  | appended {b' : Builder} {texts : List String} (value : call.hasValue = true)
      (entered : call.stage? = some b'.stage) (notLower : b.stage.rank ≤ b'.stage.rank)
      (next_eq : b'.next = b.next + call.values.length) (room : b'.next ≤ placeholderLimit)
      (fragments_eq : b'.fragments = b.fragments ++ texts)
      (guards_eq : b'.guards =
        b.guards + if call.stage? = some .guard then texts.length else 0) : Takes b call (.ok b')

theorem apply_takes {b : Builder} {call : Call} (hstaged : call.Staged)
    (hnext : b.next ≤ placeholderLimit) : Takes b call (b.apply call) := by
  cases hvalue : call.hasValue with
  | false =>
    rw [apply_of_no_value b hvalue]
    exact .absent hvalue
  | true =>
    have hparts : call.parts.isEmpty = false := by rw [parts_isEmpty, hvalue]; rfl
    obtain ⟨stage, hstage⟩ : ∃ stage, call.stage? = some stage := by
      cases call <;> first | exact ⟨_, rfl⟩ | exact hstaged.elim
    rw [apply_eq, hparts, if_neg Bool.false_ne_true, hstage, enter?, enter]
    split
    next hlower => exact .behind hvalue hstage hlower
    next hlower =>
      by_cases hroom : b.next + call.values.length ≤ placeholderLimit
      · obtain ⟨b', hadded, hnext', hsame⟩ :=
          addAll_isOk hstaged.fits (b := { b with stage }) hroom
        obtain ⟨texts, hfragments, hcount⟩ := addAll_appends Call.guards_of_mem_parts hadded
        change Takes b call (call.parts.foldlM add { b with stage })
        rw [hadded]
        refine .appended hvalue (hstage.trans (congrArg some hsame.symm)) ?_ hnext'
          (hnext'.trans_le hroom) hfragments ?_
        · rw [hsame]
          exact Nat.not_lt.mp hlower
        · rw [hcount]
          split <;> simp
      · have hexceeds := addAll_overflow hstaged.fits (b := { b with stage }) hnext
          (Nat.not_le.mp hroom)
        change Takes b call (call.parts.foldlM add { b with stage })
        rw [hexceeds]
        exact .ranOut (Nat.not_le.mp hroom)

end Builder

theorem lastWithValue_concat (calls : List Call) (call : Call) :
    lastWithValue (calls ++ [call]) =
      if call.hasValue then some call else lastWithValue calls := by
  rw [lastWithValue, List.filter_append]
  cases hvalue : call.hasValue <;> simp [lastWithValue, hvalue]

theorem valueCount_concat (calls : List Call) (call : Call) :
    valueCount (calls ++ [call]) = valueCount calls + call.values.length := by
  simp [valueCount]

theorem goesBack_concat {calls : List Call} {call : Call} :
    GoesBack (calls ++ [call]) ↔ GoesBack calls ∨
      call.hasValue = true ∧ ∃ nearest ∈ lastWithValue calls, call.Before nearest := by
  constructor
  · rintro ⟨earlier, back, later, hcalls, hback⟩
    cases later using List.reverseRecOn with
    | nil =>
      obtain ⟨rfl, hlast⟩ := List.append_inj' hcalls rfl
      cases hlast
      exact .inr hback
    | append_singleton later last =>
      rw [← List.cons_append, ← List.append_assoc] at hcalls
      obtain ⟨rfl, -⟩ := List.append_inj' hcalls rfl
      exact .inl ⟨earlier, back, later, rfl, hback⟩
  · rintro (⟨earlier, back, later, rfl, hback⟩ | hback)
    · exact ⟨earlier, back, later ++ [call], by simp, hback⟩
    · exact ⟨calls, call, [], rfl, hback⟩

def stageAfter (calls : List Call) : Stage := ((lastWithValue calls).bind Call.stage?).getD .guard

private theorem before_iff {call : Call} {stage : Stage} (hstage : call.stage? = some stage)
    (calls : List Call) :
    (∃ nearest ∈ lastWithValue calls, call.Before nearest) ↔
      stage.rank < (stageAfter calls).rank := by
  have hguard : ¬stage.rank < Stage.guard.rank := Nat.not_lt_zero _
  cases hlast : lastWithValue calls with
  | none => simp [stageAfter, hlast, hguard]
  | some nearest =>
    cases hnearest : nearest.stage? <;>
      simp [stageAfter, hlast, Call.Before, hstage, hnearest, hguard]

/-- How a run of calls ends on a new builder. -/
inductive Ends (first : Nat) (calls : List Call) : Except Fault Builder → Prop
  | completed {b : Builder} (forward : ¬GoesBack calls)
      (next_eq : b.next = first + valueCount calls) (room : b.next ≤ placeholderLimit)
      (stage_eq : b.stage = stageAfter calls) : Ends first calls (.ok b)
  | wentBack {stage after : Stage} (back : GoesBack calls) :
      Ends first calls (.error (.stageOrder stage after))
  | ranOut (exceeds : placeholderLimit < first + valueCount calls) :
      Ends first calls (.error .placeholderOverflow)

theorem Ends.step {first : Nat} {calls : List Call} {b : Builder} (h : Ends first calls (.ok b))
    {call : Call} (hstaged : call.Staged) : Ends first (calls ++ [call]) (b.apply call) := by
  cases h with
  | completed hforward hnext hroom hstage =>
    have htakes := Builder.apply_takes hstaged hroom
    generalize b.apply call = result at htakes ⊢
    cases htakes with
    | absent hvalue =>
      refine .completed ?_ ?_ hroom ?_
      · rw [goesBack_concat, hvalue]
        rintro (hback | ⟨hfalse, -⟩)
        · exact hforward hback
        · exact Bool.false_ne_true hfalse
      · rw [valueCount_concat, Call.values_eq_nil hvalue]
        exact hnext
      · rw [stageAfter, lastWithValue_concat, hvalue]
        exact hstage
    | behind hvalue hentered hlower =>
      rw [hstage] at hlower
      have hbefore := (before_iff hentered calls).mpr hlower
      exact .wentBack (goesBack_concat.mpr (.inr ⟨hvalue, hbefore⟩))
    | ranOut hexceeds =>
      refine .ranOut ?_
      rw [valueCount_concat]
      omega
    | appended hvalue hentered hnotLower hnext' hroom' =>
      refine .completed ?_ ?_ hroom' ?_
      · rw [goesBack_concat, before_iff hentered]
        rintro (hback | ⟨-, hlower⟩)
        · exact hforward hback
        · rw [hstage] at hnotLower
          exact absurd hlower (Nat.not_lt.mpr hnotLower)
      · rw [valueCount_concat, hnext', hnext, Nat.add_assoc]
      · rw [stageAfter, lastWithValue_concat, hvalue]
        simp [hentered]

theorem run_ends {first : Nat} (hfirst : first ≤ placeholderLimit) {calls : List Call}
    (hstaged : ∀ call ∈ calls, call.Staged) :
    Ends first calls (calls.foldlM Builder.apply (Builder.startingAt first)) := by
  induction calls using List.reverseRecOn with
  | nil =>
    refine .completed ?_ rfl hfirst rfl
    rintro ⟨earlier, call, later, hcalls, -⟩
    cases earlier <;> cases hcalls
  | append_singleton calls call ih =>
    have hends := ih fun call h => hstaged call (List.mem_append_left _ h)
    have hcall : call.Staged := hstaged call (List.mem_append_right _ List.mem_cons_self)
    rw [List.foldlM_append]
    generalize calls.foldlM Builder.apply (Builder.startingAt first) = run at hends ⊢
    cases run with
    | ok b =>
      have hlast : [call].foldlM Builder.apply b = b.apply call := by
        rw [List.foldlM_cons]
        cases b.apply call <;> rfl
      change Ends first (calls ++ [call]) ([call].foldlM Builder.apply b)
      rw [hlast]
      exact hends.step hcall
    | error fault =>
      cases hends with
      | wentBack hback => exact .wentBack (goesBack_concat.mpr (.inl hback))
      | ranOut hexceeds =>
        refine .ranOut ?_
        rw [valueCount_concat]
        omega

/-- What a run has appended, from `b` to `b'`. -/
structure Builder.Logs (b b' : Builder) (log : List (Call × String)) : Prop where
  fragments_eq : b'.fragments = b.fragments ++ log.map Prod.snd
  guards_eq : b'.guards = b.guards + log.countP fun entry => entry.1.stage? = some .guard
  inOrder : InOrder (log.map Prod.fst)
  notLower : ∀ entry ∈ log, ∀ stage ∈ entry.1.stage?, b.stage.rank ≤ stage.rank

private theorem inOrder_append {calls calls' : List Call} (stage : Stage)
    (hfirst : ∀ call ∈ calls, call.stage? = some stage) (hrest : InOrder calls')
    (hlower : ∀ call ∈ calls', ∀ stage' ∈ call.stage?, stage.rank ≤ stage'.rank) :
    InOrder (calls ++ calls') := by
  have hstages : ∀ found ∈ calls.filterMap Call.stage?, found = stage := by
    intro found hfound
    obtain ⟨call, hmem, hentered⟩ := List.mem_filterMap.mp hfound
    exact Option.some.inj (hentered.symm.trans (hfirst call hmem))
  rw [InOrder, List.filterMap_append, List.pairwise_append]
  refine ⟨?_, hrest, ?_⟩
  · rw [List.eq_replicate_of_mem hstages]
    exact List.pairwise_replicate.mpr (.inr (Nat.le_refl _))
  · intro found hfound later hlater
    obtain ⟨call, hmem, hentered⟩ := List.mem_filterMap.mp hlater
    rw [hstages found hfound]
    exact hlower call hmem later hentered

/-- A completed run has logged its fragments in the order of their stages. -/
theorem Builder.run_logs {calls : List Call} (hstaged : ∀ call ∈ calls, call.Staged)
    {b b' : Builder} (hroom : b.next ≤ placeholderLimit)
    (h : calls.foldlM Builder.apply b = .ok b') :
    ∃ log, b.emitted calls = .ok log ∧ b.Logs b' log := by
  induction calls generalizing b with
  | nil =>
    cases h
    exact ⟨[], rfl, (List.append_nil _).symm, rfl, List.Pairwise.nil, nofun⟩
  | cons call calls ih =>
    obtain ⟨hcall, hcalls⟩ := List.forall_mem_cons.mp hstaged
    obtain ⟨b₁, happly, hrest⟩ := foldlM_cons_ok h
    have htakes := apply_takes hcall hroom
    rw [happly] at htakes
    cases htakes with
    | absent hvalue =>
      obtain ⟨log, hemitted, hlogs⟩ := ih hcalls hroom hrest
      refine ⟨log, ?_, hlogs⟩
      rw [emitted, happly]
      simp [bind, Except.bind, hemitted, pure, Except.pure]
    | @appended _ texts hvalue hentered hnotLower hnext hroom' hfragments hguards =>
      obtain ⟨log, hemitted, hlogs⟩ := ih hcalls hroom' hrest
      refine ⟨texts.map (call, ·) ++ log, ?_, ?_, ?_, ?_, ?_⟩
      · rw [emitted, happly]
        simp [bind, Except.bind, hemitted, hfragments, pure, Except.pure]
      · rw [hlogs.fragments_eq, hfragments]
        simp [Function.comp_def]
      · rw [hlogs.guards_eq, hguards, List.countP_append, List.countP_map]
        split <;> simp_all [Function.comp_def, Nat.add_assoc]
      · rw [List.map_append]
        refine inOrder_append b₁.stage ?_ hlogs.inOrder ?_
        · simp [hentered]
        · intro later hmem
          obtain ⟨entry, hentry, rfl⟩ := List.mem_map.mp hmem
          exact hlogs.notLower entry hentry
      · intro entry hentry stage hstage
        rcases List.mem_append.mp hentry with hnew | hold
        · obtain ⟨text, -, rfl⟩ := List.mem_map.mp hnew
          cases hentered.symm.trans hstage
          exact hnotLower
        · exact hnotLower.trans (hlogs.notLower entry hold stage hstage)

/-- Calls without a value change nothing and may be left out. A run of calls of named stages faults
exactly when a call with a value goes back behind the nearest one before it, or when the numbers run
out. Otherwise its fragments stand in the order of their stages, and the filters are counted. So the
clause of every filter is completed. -/
theorem staged_runs_fault_only_going_back (first : UInt64) {calls : List Call}
    (hstaged : ∀ call ∈ calls, call.Staged) :
    let start := Builder.startingAt first.toNat
    let run := calls.foldlM Builder.apply start
    (∀ (b : Builder) (call : Call), call.hasValue = false → b.apply call = .ok b) ∧
    (∀ b : Builder, calls.foldlM Builder.apply b =
      (calls.filter Call.hasValue).foldlM Builder.apply b) ∧
    ((∃ fault, run = .error fault) ↔
      GoesBack calls ∨ placeholderLimit < first.toNat + valueCount calls) ∧
    (∀ fault, run = .error fault →
      (∃ stage after, fault = .stageOrder stage after) ∧ GoesBack calls ∨
      fault = .placeholderOverflow ∧ placeholderLimit < first.toNat + valueCount calls) ∧
    (∀ b, run = .ok b → ∃ log, start.emitted calls = .ok log ∧ b.fragments = log.map Prod.snd ∧
      InOrder (log.map Prod.fst) ∧ b.guards ≤ b.fragments.length ∧
      b.filterCount = log.countP fun entry => entry.1.stage? ≠ some .guard) ∧
    (∀ f ids, ∃ c, Trip.Filter.compile f ids = .ok c) ∧
    (∀ f ids, ∃ c, Telemetry.Filter.compile f ids = .ok c) ∧
    (∀ s ids, ∃ c, Telemetry.Selector.compile s ids = .ok c) ∧
    ∀ f, ∃ c, Offer.Filter.compile f = .ok c := by
  intro start run
  have hfirst : first.toNat ≤ placeholderLimit := Nat.le_pred_of_lt first.toNat_lt_size
  have hends : Ends first.toNat calls run := run_ends hfirst hstaged
  refine ⟨fun b call hvalue => b.apply_of_no_value hvalue, fun b => b.run_filter calls, ?_, ?_, ?_,
    fun f ids => (f.orderly ids).compiles.imp fun _ h => h.1,
    fun f ids => (f.orderly ids).compiles.imp fun _ h => h.1,
    fun s ids => (s.orderly ids).compiles.imp fun _ h => h.1,
    fun f => f.orderly.compiles.imp fun _ h => h.1⟩
  · generalize run = result at hends
    cases hends with
    | completed hforward hnext hroom =>
      refine ⟨nofun, ?_⟩
      rintro (hback | hexceeds)
      · exact absurd hback hforward
      · omega
    | wentBack hback => exact ⟨fun _ => .inl hback, fun _ => ⟨_, rfl⟩⟩
    | ranOut hexceeds => exact ⟨fun _ => .inr hexceeds, fun _ => ⟨_, rfl⟩⟩
  · intro fault hfault
    rw [hfault] at hends
    cases hends with
    | wentBack hback => exact .inl ⟨⟨_, _, rfl⟩, hback⟩
    | ranOut hexceeds => exact .inr ⟨rfl, hexceeds⟩
  · intro b hrun
    obtain ⟨log, hemitted, hlogs⟩ := Builder.run_logs hstaged hfirst hrun
    have hfragments : b.fragments = log.map Prod.snd := hlogs.fragments_eq
    have hguards : b.guards = log.countP fun entry => entry.1.stage? = some .guard :=
      hlogs.guards_eq.trans (Nat.zero_add _)
    have hsplit : log.length = log.countP (fun entry => entry.1.stage? = some .guard) +
        log.countP fun entry => entry.1.stage? ≠ some .guard := by
      simpa using log.length_eq_countP_add_countP fun entry => entry.1.stage? = some .guard
    refine ⟨log, hemitted, hfragments, hlogs.inOrder, ?_, ?_⟩
    · rw [hguards, hfragments, List.length_map]
      exact List.countP_le_length
    · rw [Builder.filterCount, hguards, hfragments, List.length_map]
      omega

/-- An equality behind a range, with a blank term between them. Without its bounds the range does
not count. -/
theorem equality_goes_back_behind_range :
    let calls (least : Option Value) : List Call :=
      [.guard "t.deleted = false", .range "t.distance_km" least none,
        .contains ["t.from_address"] (some "  "), .eq "t.driver_id" (some (.int 7))]
    (∀ least, ∀ call ∈ calls least, call.Staged) ∧
    (∃ fault, (calls (some (.int 5))).foldlM Builder.apply (Builder.startingAt 1) = .error fault) ∧
    ∃ b, (calls none).foldlM Builder.apply (Builder.startingAt 1) = .ok b ∧
      b.fragments = ["t.deleted = false", "t.driver_id = $1"] ∧ b.filterCount = 1 := by
  intro calls
  have hstaged : ∀ least, ∀ call ∈ calls least, call.Staged := by
    intro least
    simp only [calls, List.forall_mem_cons, Call.Staged]
    exact ⟨trivial, no_marker_of_no_dollar (by decide), trivial,
      no_marker_of_no_dollar (by decide), nofun⟩
  have hback : GoesBack (calls (some (.int 5))) :=
    ⟨[_, _, _], _, [], rfl, rfl, .range "t.distance_km" (some (.int 5)) none, rfl,
      .equality, rfl, .range, rfl, by decide⟩
  have hfault := (staged_runs_fault_only_going_back 1 (hstaged _)).2.2.1.mpr (.inl hback)
  exact ⟨hstaged, hfault, ⟨_, [.int 7], 2, .equality, 1⟩, rfl, rfl, rfl⟩

end Query

end FleetTrail
