import FleetTrail.Offer.Clause
import FleetTrail.Proofs.Query.Part
import FleetTrail.Proofs.Query.Placeholders
import FleetTrail.Telemetry.Clause
import FleetTrail.Trip.Clause

/-!
# Clauses are always completed

Calls over plain columns that come in the order of their stages never fault while there are
numbers left for three values each. The calls of every filter are of this kind, so every filter
has a clause.
-/

namespace FleetTrail.Query

def Call.Plain : Call → Prop
  | .guard fragment => '$' ∉ fragment.toList
  | .offerIds fragment _ => Marked fragment.toList ∧ markers fragment.toList = 1
  | .eq column _ | .range column _ _ | .within column _ | .notWithin column _
  | .withinRadius column _ _ _ => '$' ∉ column.toList
  | .eqAny columns _ | .contains columns _ | .search columns _ =>
    columns ≠ [] ∧ ∀ column ∈ columns, '$' ∉ column.toList
  | .predicate .. | .shared .. => False

/-- A call of a named stage whose columns hold no marker. Columns that share one value may hold
any text, and so may a guard. -/
def Call.Staged : Call → Prop
  | .guard _ | .eqAny .. | .contains .. | .search .. => True
  | .offerIds fragment _ => markers fragment.toList = 1
  | .eq column _ | .range column _ _ | .within column _ | .notWithin column _
  | .withinRadius column _ _ _ => ¬marker.toList <:+: column.toList
  | .predicate .. | .shared .. => False

theorem Call.Plain.staged {call : Call} (h : call.Plain) : call.Staged := by
  cases call with
  | guard fragment | eqAny columns value | contains columns term | search columns term => trivial
  | offerIds fragment ids => exact h.2
  | eq column value | range column least most | within column values | notWithin column values
  | withinRadius column lat lng radiusKm => exact no_marker_of_no_dollar h
  | predicate fragment values => exact h.elim
  | shared fragment value => exact h.elim

def InOrder (calls : List Call) : Prop :=
  (calls.filterMap Call.stage?).Pairwise fun earlier later => earlier.rank ≤ later.rank

def Part.Fits : Part → Prop
  | .fixed _ | .shared .. => True
  | .numbered fragment values => markers fragment.toList = values.length

section Parts

variable {column : String}

private theorem markers_behind (h : ¬marker.toList <:+: column.toList) {suffix : String}
    (hseam : suffix.toList.head? ≠ some '?') :
    markers (column ++ suffix).toList = markers suffix.toList := by
  rw [String.toList_append, markers_append_of_no_marker h hseam]

private theorem markers_operation (h : ¬marker.toList <:+: column.toList) {operator : String}
    (hseam : (operator ++ marker).toList.head? ≠ some '?')
    (hone : markers (operator ++ marker).toList = 1) :
    markers (column ++ operator ++ marker).toList = 1 := by
  rw [String.append_assoc, markers_behind h hseam]
  exact hone

private theorem markers_notWithin (h : ¬marker.toList <:+: column.toList) :
    markers (notWithinFragment column).toList = 1 := by
  unfold notWithinFragment
  simp only [String.toList_append, List.append_assoc]
  rw [markers_append_of_no_dollar (by decide), markers_append_of_no_marker h (by simp),
    markers_append_of_no_dollar (by decide), markers_append_of_no_marker h (by simp)]
  decide

private theorem markers_radius (h : ¬marker.toList <:+: column.toList) :
    markers (radiusFragment column).toList = 3 := by
  unfold radiusFragment
  simp only [String.toList_append, List.append_assoc]
  rw [markers_append_of_no_dollar (by decide), markers_append_of_no_marker h (by simp)]
  decide +kernel

private def FitAndFew (parts : List Part) : Prop :=
  (∀ p ∈ parts, p.Fits) ∧ (parts.flatMap Part.values).length ≤ 3

private theorem optional_fit {α : Type} {make : α → Part} {value : Option α} {parts : List Part}
    (hparts : parts = (value.map make).toList) (hone : ∀ v, (make v).values.length = 1)
    (hfit : ∀ v, (make v).Fits) : FitAndFew parts := by
  rw [hparts]
  cases value with
  | none => simp [FitAndFew]
  | some v => simp [FitAndFew, hfit v, hone v]

private theorem Call.Staged.parts {call : Call} (h : call.Staged) : FitAndFew call.parts := by
  cases call with
  | guard fragment => simp [FitAndFew, Call.parts, Part.Fits, Part.values]
  | offerIds fragment ids => exact optional_fit rfl (fun _ => rfl) fun _ => h
  | eq column value =>
    have hmarkers : markers (equalsFragment column).toList = 1 :=
      markers_operation h (by decide) (by decide)
    exact optional_fit rfl (fun _ => rfl) fun _ => hmarkers
  | eqAny columns value | contains columns term | search columns term =>
    exact optional_fit rfl (fun _ => rfl) fun _ => trivial
  | range column least most =>
    have hleast : markers (column ++ " >= " ++ marker).toList = 1 :=
      markers_operation h (by decide) (by decide)
    have hmost : markers (column ++ " <= " ++ marker).toList = 1 :=
      markers_operation h (by decide) (by decide)
    cases least <;> cases most <;>
      simp_all [FitAndFew, Call.parts, Part.Fits, Part.values]
  | within column values =>
    have hmarkers : markers (withinFragment column).toList = 1 := by
      rw [withinFragment, String.append_assoc, String.append_assoc, markers_behind h (by decide)]
      decide
    exact optional_fit rfl (fun _ => rfl) fun _ => hmarkers
  | notWithin column values =>
    exact optional_fit rfl (fun _ => rfl) fun _ => markers_notWithin h
  | withinRadius column lat lng radiusKm =>
    simp only [Call.parts]
    split
    · simp [FitAndFew, Part.Fits, Part.values, markers_radius h]
    · simp [FitAndFew]
  | predicate fragment values => exact h.elim
  | shared fragment value => exact h.elim

theorem Call.Staged.fits {call : Call} (h : call.Staged) : ∀ p ∈ call.parts, p.Fits := h.parts.1

end Parts

namespace Builder

theorem add_isOk {b : Builder} {p : Part} (hfit : p.Fits)
    (hlimit : b.next + p.values.length ≤ placeholderLimit) :
    ∃ b', b.add p = .ok b' ∧ b'.next = b.next + p.values.length ∧ b'.stage = b.stage := by
  obtain ⟨text, htext⟩ : ∃ text, p.text b.next = .ok text := by
    cases p with
    | fixed fragment => exact ⟨_, rfl⟩
    | numbered fragment values => exact numberMarkers_isOk hfit hlimit
    | shared fragment value =>
      simp only [Part.values, List.length_cons, List.length_nil] at hlimit
      exact ⟨_, if_neg (by omega)⟩
  exact ⟨_, add_eq_ok_iff.mpr ⟨text, htext, rfl⟩, rfl, rfl⟩

theorem addAll_isOk {parts : List Part} (hfit : ∀ p ∈ parts, p.Fits) {b : Builder}
    (hlimit : b.next + (parts.flatMap Part.values).length ≤ placeholderLimit) :
    ∃ b', parts.foldlM add b = .ok b' ∧
      b'.next = b.next + (parts.flatMap Part.values).length ∧ b'.stage = b.stage := by
  induction parts generalizing b with
  | nil => exact ⟨b, rfl, rfl, rfl⟩
  | cons p parts ih =>
    obtain ⟨hp, hparts⟩ := List.forall_mem_cons.mp hfit
    rw [List.flatMap_cons, List.length_append] at hlimit
    obtain ⟨b₁, hadd, hnext, hstage⟩ := add_isOk (b := b) hp (by omega)
    obtain ⟨b', hrest, hnext', hstage'⟩ := ih hparts (b := b₁) (by omega)
    refine ⟨b', ?_, ?_, hstage'.trans hstage⟩
    · rw [List.foldlM_cons, hadd]
      exact hrest
    · rw [List.flatMap_cons, List.length_append]
      omega

private theorem apply_isOk {b : Builder} {call : Call} (hplain : call.Plain)
    (hstage : ∀ stage ∈ call.stage?, b.stage.rank ≤ stage.rank)
    (hlimit : b.next + 3 ≤ placeholderLimit) :
    ∃ b', b.apply call = .ok b' ∧ b'.next ≤ b.next + 3 ∧
      (b'.stage = b.stage ∨ call.stage? = some b'.stage) := by
  obtain ⟨hfit, hfew⟩ := hplain.staged.parts
  rw [apply_eq]
  split
  · exact ⟨b, rfl, Nat.le_add_right _ _, .inl rfl⟩
  · cases hentered : call.stage? with
    | none =>
      obtain ⟨b', hrest, hnext, hsame⟩ := addAll_isOk hfit (b := b) (by omega)
      exact ⟨b', hrest, by omega, .inl hsame⟩
    | some stage =>
      have hrank : ¬stage.rank < b.stage.rank := Nat.not_lt.mpr (hstage stage hentered)
      obtain ⟨b', hrest, hnext, hsame⟩ :=
        addAll_isOk hfit (b := { b with stage }) (by simp only; omega)
      refine ⟨b', ?_, by simp only at hnext; omega, .inr (congrArg some hsame.symm)⟩
      rw [enter?, enter, if_neg hrank]
      exact hrest

theorem run_isOk {calls : List Call} (hplain : ∀ call ∈ calls, call.Plain) {b : Builder}
    (hfirst : ∀ stage ∈ calls.filterMap Call.stage?, b.stage.rank ≤ stage.rank)
    (horder : InOrder calls) (hlimit : b.next + 3 * calls.length ≤ placeholderLimit) :
    ∃ b', calls.foldlM apply b = .ok b' ∧ b'.next ≤ b.next + 3 * calls.length := by
  induction calls generalizing b with
  | nil => exact ⟨b, rfl, Nat.le_refl _⟩
  | cons call calls ih =>
    obtain ⟨hcall, hcalls⟩ := List.forall_mem_cons.mp hplain
    rw [List.length_cons] at hlimit
    have hstage : ∀ stage ∈ call.stage?, b.stage.rank ≤ stage.rank := fun stage h =>
      hfirst stage (List.mem_filterMap.mpr ⟨call, List.mem_cons_self, h⟩)
    obtain ⟨b₁, happly, hnext, hwhich⟩ := apply_isOk hcall hstage (by omega)
    have hlater : ∀ stage ∈ calls.filterMap Call.stage?, b₁.stage.rank ≤ stage.rank := by
      intro stage hmem
      rcases hwhich with hsame | hentered
      · rw [hsame]
        obtain ⟨later, hlater, heq⟩ := List.mem_filterMap.mp hmem
        exact hfirst stage (List.mem_filterMap.mpr ⟨later, List.mem_cons_of_mem _ hlater, heq⟩)
      · rw [InOrder, List.filterMap_cons_some hentered] at horder
        exact (List.pairwise_cons.mp horder).1 stage hmem
    have hrest : InOrder calls :=
      List.Pairwise.sublist ((List.sublist_cons_self call calls).filterMap _) horder
    obtain ⟨b', hrun, hnext'⟩ := ih hcalls hlater hrest (by omega)
    refine ⟨b', ?_, by rw [List.length_cons]; omega⟩
    rw [List.foldlM_cons, happly]
    exact hrun

end Builder

end FleetTrail.Query

namespace FleetTrail

open Query

/-- The calls of a filter: plain, in order and few. -/
structure Query.Orderly (calls : List Call) : Prop where
  plain : ∀ call ∈ calls, call.Plain
  inOrder : InOrder calls
  few : 3 + 3 * calls.length ≤ placeholderLimit

/-- The clause is completed, and numbers are left for a page. -/
theorem Query.Orderly.run {calls : List Call} (h : Orderly calls) :
    ∃ b, calls.foldlM Builder.apply (Builder.startingAt 1) = .ok b ∧
      b.next + 2 ≤ placeholderLimit := by
  have hfirst : ∀ stage ∈ calls.filterMap Call.stage?, Stage.guard.rank ≤ stage.rank :=
    fun stage _ => Nat.zero_le stage.rank
  have hfew := h.few
  have hlimit : (Builder.startingAt 1).next + 3 * calls.length ≤ placeholderLimit := by
    simp only [Builder.startingAt]
    omega
  obtain ⟨b, hrun, hnext⟩ := Builder.run_isOk h.plain hfirst h.inOrder hlimit
  simp only [Builder.startingAt] at hnext
  exact ⟨b, hrun, by omega⟩

theorem Trip.Filter.orderly (f : Trip.Filter) (offerIds : Option (List Int64)) :
    Orderly (f.calls offerIds) where
  plain := by
    have hguard : '$' ∉ "t.deleted = false".toList := by decide
    have hoffers :
        Marked "t.id IN (SELECT l.trip_id FROM trip_offers l WHERE l.offer_id = ANY($?))".toList ∧
        markers "t.id IN (SELECT l.trip_id FROM trip_offers l WHERE l.offer_id = ANY($?))".toList =
          1 := by decide +kernel
    refine List.forall_mem_cons.mpr ⟨hguard, List.forall_mem_cons.mpr ⟨hoffers, ?_⟩⟩
    simp [Call.Plain, Trip.searchColumns]
  inOrder := by simp [InOrder, Filter.calls, Call.stage?, Stage.rank]
  few := by simp [Filter.calls, placeholderLimit]

private theorem Telemetry.liveTrip_plain : Telemetry.liveTrip.Plain := by
  show '$' ∉ "COALESCE(t.deleted, false) = false".toList
  decide

private theorem Telemetry.ofOffers_plain (ids : Option (List Int64)) :
    (Telemetry.ofOffers ids).Plain := by
  show Marked "g.offer_id = ANY($?)".toList ∧ markers "g.offer_id = ANY($?)".toList = 1
  decide

theorem Telemetry.Filter.orderly (f : Telemetry.Filter) (offerIds : Option (List Int64)) :
    Orderly (f.calls offerIds) where
  plain := by
    refine List.forall_mem_cons.mpr ⟨liveTrip_plain,
      List.forall_mem_cons.mpr ⟨ofOffers_plain offerIds, ?_⟩⟩
    simp [between, measured, oneOf, noneOf, Call.Plain, Telemetry.searchColumns]
  inOrder := by
    simp [InOrder, Filter.calls, liveTrip, ofOffers, between, measured, oneOf, noneOf,
      Call.stage?, Stage.rank]
  few := by simp [Filter.calls, placeholderLimit]

theorem Telemetry.Selector.orderly (s : Telemetry.Selector) (offerIds : Option (List Int64)) :
    Orderly (s.calls offerIds) where
  plain := by
    refine List.forall_mem_cons.mpr ⟨liveTrip_plain,
      List.forall_mem_cons.mpr ⟨ofOffers_plain offerIds, ?_⟩⟩
    simp [between, oneOf, Call.Plain]
  inOrder := by
    simp [InOrder, Selector.calls, liveTrip, ofOffers, between, oneOf, Call.stage?, Stage.rank]
  few := by simp [Selector.calls, placeholderLimit]

private theorem Offer.companyCall_plain (f : Offer.Filter) :
    (Offer.companyCall f).Plain ∧ (Offer.companyCall f).stage? = some .equality := by
  rw [companyCall]
  split <;> simp [Call.Plain, Call.stage?]

theorem Offer.Filter.orderly (f : Offer.Filter) : Orderly f.calls where
  plain := by
    have hguard : '$' ∉ "o.deleted = false".toList := by decide
    refine List.forall_mem_cons.mpr ⟨hguard,
      List.forall_mem_cons.mpr ⟨(companyCall_plain f).1, ?_⟩⟩
    simp [Call.Plain, Offer.searchColumns]
  inOrder := by
    have hguard : Call.stage? (.guard "o.deleted = false") = some .guard := rfl
    rw [InOrder, Filter.calls, List.filterMap_cons_some hguard,
      List.filterMap_cons_some (companyCall_plain f).2]
    simp [Call.stage?, Stage.rank]
  few := by simp [Filter.calls, placeholderLimit]

end FleetTrail
