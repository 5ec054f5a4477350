import FleetTrail.Query.Builder

/-!
# Calls as parts

Every call of the builder comes down to the parts it emits: a fixed fragment, a fragment with one
value for each marker, or a fragment whose markers share one value. `apply_eq` says that applying a
call is entering its stage and adding its parts, so what holds of one part added holds of every
run of calls.
-/

namespace FleetTrail.Query

/-- A fragment with the values bound in it. -/
inductive Part where
  | fixed (fragment : String)
  | numbered (fragment : String) (values : List Value)
  | shared (fragment : String) (value : Value)

namespace Part

def fragment : Part → String
  | .fixed fragment | .numbered fragment _ | .shared fragment _ => fragment

def values : Part → List Value
  | .fixed _ => []
  | .numbered _ values => values
  | .shared _ value => [value]

def guards : Part → Nat
  | .fixed _ => 1
  | .numbered .. | .shared .. => 0

/-- The text of a part whose first placeholder has the number `n`. -/
def text (n : Nat) : Part → Except Misfit (List Char)
  | .fixed fragment => .ok fragment.toList
  | .numbered fragment values => numberMarkers n fragment.toList values
  | .shared fragment _ =>
    if n = placeholderLimit then .error .overflow else .ok (shareMarker n fragment.toList)

theorem text_shared {fragment : String} {value : Value} {n : Nat} {text : List Char}
    (h : (shared fragment value).text n = .ok text) : text = shareMarker n fragment.toList := by
  rw [Part.text] at h
  split at h
  · cases h
  · cases h
    rfl

end Part

/-- The parts that a call emits; a call without a value emits none. -/
def Call.parts : Call → List Part
  | .guard fragment => [.fixed fragment]
  | .offerIds fragment ids => (ids.map fun ids => .numbered fragment [.ints ids]).toList
  | .eq column value => (value.map fun v => .numbered (equalsFragment column) [v]).toList
  | .eqAny columns value =>
    (value.map fun v => .shared (anyOf (columns.map equalsFragment)) v).toList
  | .contains columns term | .search columns term =>
    ((likePattern term).map fun pattern => .shared (likeFragment columns) (.text pattern)).toList
  | .range column least most =>
    (least.map fun v => .numbered (column ++ " >= " ++ marker) [v]).toList ++
      (most.map fun v => .numbered (column ++ " <= " ++ marker) [v]).toList
  | .within column values => (values.map fun v => .numbered (withinFragment column) [v]).toList
  | .notWithin column values =>
    (values.map fun v => .numbered (notWithinFragment column) [v]).toList
  | .withinRadius column lat lng radiusKm =>
    match lat, lng, radiusKm with
    | some lat, some lng, some km =>
      [.numbered (radiusFragment column) [.float lng, .float lat, .float (km * 1000.0)]]
    | _, _, _ => []
  | .predicate fragment values => [.numbered fragment values]
  | .shared fragment value => [.shared fragment value]

def Call.stage? : Call → Option Stage
  | .guard _ => some .guard
  | .offerIds .. => some .offerIds
  | .eq .. | .eqAny .. => some .equality
  | .contains .. => some .substring
  | .range .. => some .range
  | .within .. | .notWithin .. => some .membership
  | .withinRadius .. => some .radius
  | .search .. => some .search
  | .predicate .. | .shared .. => none

theorem Call.guards_of_mem_parts {call : Call} :
    ∀ p ∈ call.parts, p.guards = if call.stage? = some .guard then 1 else 0 := by
  intro p hp
  cases call with
  | guard fragment => simp_all [Call.parts, Call.stage?, Part.guards]
  | offerIds fragment ids => cases ids <;> simp_all [Call.parts, Call.stage?, Part.guards]
  | eq column value => cases value <;> simp_all [Call.parts, Call.stage?, Part.guards]
  | eqAny columns value => cases value <;> simp_all [Call.parts, Call.stage?, Part.guards]
  | contains columns term =>
    cases hpattern : likePattern term <;> simp_all [Call.parts, Call.stage?, Part.guards]
  | range column least most =>
    cases least <;> cases most <;> simp_all [Call.parts, Call.stage?, Part.guards]
    rcases hp with rfl | rfl <;> rfl
  | within column values => cases values <;> simp_all [Call.parts, Call.stage?, Part.guards]
  | notWithin column values => cases values <;> simp_all [Call.parts, Call.stage?, Part.guards]
  | withinRadius column lat lng km =>
    cases lat <;> cases lng <;> cases km <;> simp_all [Call.parts, Call.stage?, Part.guards]
  | search columns term =>
    cases hpattern : likePattern term <;> simp_all [Call.parts, Call.stage?, Part.guards]
  | predicate fragment values => simp_all [Call.parts, Call.stage?, Part.guards]
  | shared fragment value => simp_all [Call.parts, Call.stage?, Part.guards]

namespace Builder

def add (b : Builder) : Part → Except Fault Builder
  | .fixed fragment =>
    .ok { b with fragments := b.fragments ++ [fragment], guards := b.guards + 1 }
  | .numbered fragment values => b.append fragment values
  | .shared fragment value => b.appendShared fragment value

def enter? (b : Builder) : Option Stage → Except Fault Builder
  | some stage => b.enter stage
  | none => .ok b

private theorem ok_bind {α β : Type} (a : α) (f : α → Except Fault β) :
    (Except.ok a >>= f) = f a := rfl

private theorem bind_ok {α : Type} (result : Except Fault α) :
    (result >>= fun a => .ok a) = result := by
  cases result <;> rfl

/-- A call enters its stage and adds its parts. Without parts it does nothing. -/
theorem apply_eq (b : Builder) (call : Call) :
    b.apply call =
      if call.parts.isEmpty then .ok b
      else b.enter? call.stage? >>= call.parts.foldlM add := by
  cases call with
  | guard fragment =>
    simp only [apply, Call.parts, Call.stage?, enter?, add, List.isEmpty_cons, List.foldlM_cons,
      List.foldlM_nil]
    rfl
  | offerIds fragment ids => cases ids <;> simp [apply, Call.parts, Call.stage?, enter?, add]
  | eq column value => cases value <;> simp [apply, Call.parts, Call.stage?, enter?, add]
  | eqAny columns value => cases value <;> simp [apply, Call.parts, Call.stage?, enter?, add]
  | contains columns term =>
    cases h : likePattern term <;> simp [apply, Call.parts, Call.stage?, enter?, add, h]
  | range column least most =>
    cases least <;> cases most <;>
      simp [apply, Call.parts, Call.stage?, enter?, add, appendBound, ok_bind, bind_ok]
  | within column values => cases values <;> simp [apply, Call.parts, Call.stage?, enter?, add]
  | notWithin column values => cases values <;> simp [apply, Call.parts, Call.stage?, enter?, add]
  | withinRadius column lat lng radiusKm =>
    cases lat <;> cases lng <;> cases radiusKm <;>
      simp [apply, Call.parts, Call.stage?, enter?, add]
  | search columns term =>
    cases h : likePattern term <;> simp [apply, Call.parts, Call.stage?, enter?, add, h]
  | predicate fragment values =>
    simp [apply, Call.parts, Call.stage?, enter?, add, ok_bind]
  | shared fragment value => simp [apply, Call.parts, Call.stage?, enter?, add, ok_bind]

theorem add_eq_ok_iff {b b' : Builder} {p : Part} :
    b.add p = .ok b' ↔ ∃ text, p.text b.next = .ok text ∧
      b' = { b with
        fragments := b.fragments ++ [String.ofList text]
        args := b.args ++ p.values
        next := b.next + p.values.length
        guards := b.guards + p.guards } := by
  cases p with
  | fixed fragment => simp [add, Part.text, Part.values, Part.guards, eq_comm]
  | numbered fragment values =>
    simp only [add, append, Part.text, Part.values, Part.guards]
    cases numberMarkers b.next fragment.toList values with
    | ok text => simp [eq_comm]
    | error misfit => cases misfit <;> simp
  | shared fragment value =>
    simp only [add, appendShared, Part.text, Part.values, Part.guards]
    split <;> simp [eq_comm]

/-- A call that succeeds adds its parts, in the stage it left the builder in. -/
theorem apply_eq_ok {b b' : Builder} {call : Call} (h : b.apply call = .ok b') :
    ∃ stage, call.parts.foldlM add { b with stage } = .ok b' := by
  rw [apply_eq] at h
  split at h
  · next hempty =>
    rw [List.isEmpty_iff.mp hempty]
    exact ⟨b.stage, h⟩
  · cases hstage : call.stage? with
    | none => exact ⟨b.stage, by rw [hstage] at h; exact h⟩
    | some stage =>
      rw [hstage, enter?, enter] at h
      split at h
      · cases h
      · exact ⟨stage, h⟩

theorem foldlM_cons_ok {α : Type} {f : Builder → α → Except Fault Builder} {x : α}
    {xs : List α} {b b' : Builder} (h : (x :: xs).foldlM f b = .ok b') :
    ∃ b₁, f b x = .ok b₁ ∧ xs.foldlM f b₁ = .ok b' := by
  rw [List.foldlM_cons] at h
  cases hx : f b x with
  | error fault => rw [hx] at h; cases h
  | ok b₁ => exact ⟨b₁, rfl, by rw [hx] at h; exact h⟩

end Builder

end FleetTrail.Query
