import FleetTrail.Proofs.Query.Part
import FleetTrail.Proofs.Query.Placeholders

/-!
# What a clause depends on

The outline of a call is its stage and the fragments it emits, with the kinds of the values bound
in them but without the values. Two runs over calls of the same outlines go the same way step by
step: they write the same text and bind values of the same kinds.
-/

namespace FleetTrail.Query

inductive Kind where
  | int
  | float
  | text
  | bool
  | time
  | ints
  | texts
  deriving DecidableEq, Repr

def Value.kind : Value → Kind
  | .int _ => .int
  | .float _ => .float
  | .text _ => .text
  | .bool _ => .bool
  | .time _ => .time
  | .ints _ => .ints
  | .texts _ => .texts

inductive PartOutline where
  | fixed (fragment : String)
  | numbered (fragment : String) (kinds : List Kind)
  | shared (fragment : String) (kind : Kind)

def Part.outline : Part → PartOutline
  | .fixed fragment => .fixed fragment
  | .numbered fragment values => .numbered fragment (values.map Value.kind)
  | .shared fragment value => .shared fragment value.kind

def Call.outline (call : Call) : Option Stage × List PartOutline :=
  (call.stage?, call.parts.map Part.outline)

/-- A builder without the values it has bound. -/
structure BuilderOutline where
  fragments : List String
  kinds : List Kind
  next : Nat
  stage : Stage
  guards : Nat

def Builder.outline (b : Builder) : BuilderOutline :=
  ⟨b.fragments, b.args.map Value.kind, b.next, b.stage, b.guards⟩

section Calls

variable {column : String} {columns : List String} {fragment : String}

private theorem map_outline {α β : Type} {make : α → Part} {kind : α → β} (shape : β → PartOutline)
    (hmake : ∀ a, (make a).outline = shape (kind a)) (value : Option α) :
    (value.map make).toList.map Part.outline = ((value.map kind).map shape).toList := by
  cases value with
  | none => rfl
  | some a => exact congrArg (fun outline => [outline]) (hmake a)

/-- The outline of a call with one part for a value that may be missing depends on whether there is
one, and of which kind. -/
private theorem optional_outline {α β : Type} {call call' : Call} {make : α → Part} {kind : α → β}
    (shape : β → PartOutline) (hmake : ∀ a, (make a).outline = shape (kind a))
    (hstage : call.stage? = call'.stage?) {v w : Option α}
    (hparts : call.parts = (v.map make).toList) (hparts' : call'.parts = (w.map make).toList)
    (h : v.map kind = w.map kind) : call.outline = call'.outline := by
  rw [Call.outline, Call.outline, hstage, hparts, hparts', map_outline shape hmake,
    map_outline shape hmake, h]

private theorem present_congr {α : Type} {v w : Option α} (h : v.isSome = w.isSome) :
    v.map (fun _ => ()) = w.map fun _ => () := by
  cases v <;> cases w <;> first | rfl | cases h

theorem offerIds_outline {ids ids' : Option (List Int64)} (h : ids.isSome = ids'.isSome) :
    (Call.offerIds fragment ids).outline = (Call.offerIds fragment ids').outline :=
  optional_outline (fun _ => .numbered fragment [.ints]) (fun _ => rfl) rfl rfl rfl
    (present_congr h)

theorem eq_outline {v w : Option Value} (h : v.map Value.kind = w.map Value.kind) :
    (Call.eq column v).outline = (Call.eq column w).outline :=
  optional_outline (fun kind => .numbered _ [kind]) (fun _ => rfl) rfl rfl rfl h

theorem eqAny_outline {v w : Option Value} (h : v.map Value.kind = w.map Value.kind) :
    (Call.eqAny columns v).outline = (Call.eqAny columns w).outline :=
  optional_outline (.shared _) (fun _ => rfl) rfl rfl rfl h

theorem contains_outline {t u : Option String}
    (h : (likePattern t).isSome = (likePattern u).isSome) :
    (Call.contains columns t).outline = (Call.contains columns u).outline :=
  optional_outline (fun _ => .shared _ .text) (fun _ => rfl) rfl rfl rfl (present_congr h)

theorem search_outline {t u : Option String}
    (h : (likePattern t).isSome = (likePattern u).isSome) :
    (Call.search columns t).outline = (Call.search columns u).outline :=
  optional_outline (fun _ => .shared _ .text) (fun _ => rfl) rfl rfl rfl (present_congr h)

theorem range_outline {v w v' w' : Option Value} (hv : v.map Value.kind = v'.map Value.kind)
    (hw : w.map Value.kind = w'.map Value.kind) :
    (Call.range column v w).outline = (Call.range column v' w').outline := by
  have hbound (text : String) (o : Option Value) :
      (o.map fun v => Part.numbered text [v]).toList.map Part.outline =
        ((o.map Value.kind).map fun kind => .numbered text [kind]).toList :=
    map_outline (fun kind => .numbered text [kind]) (fun _ => rfl) o
  rw [Call.outline, Call.outline, Call.parts, Call.parts, List.map_append, List.map_append,
    hbound, hbound, hbound, hbound, hv, hw]
  rfl

theorem within_outline {v w : Option Value} (h : v.map Value.kind = w.map Value.kind) :
    (Call.within column v).outline = (Call.within column w).outline :=
  optional_outline (fun kind => .numbered _ [kind]) (fun _ => rfl) rfl rfl rfl h

theorem notWithin_outline {v w : Option Value} (h : v.map Value.kind = w.map Value.kind) :
    (Call.notWithin column v).outline = (Call.notWithin column w).outline :=
  optional_outline (fun kind => .numbered _ [kind]) (fun _ => rfl) rfl rfl rfl h

theorem withinRadius_outline {lat lng km lat' lng' km' : Option Float}
    (h : (lat.isSome && lng.isSome && km.isSome) = (lat'.isSome && lng'.isSome && km'.isSome)) :
    (Call.withinRadius column lat lng km).outline =
      (Call.withinRadius column lat' lng' km').outline := by
  have hparts (lat lng km : Option Float) :
      (Call.withinRadius column lat lng km).parts.map Part.outline =
        if lat.isSome && lng.isSome && km.isSome then
          [.numbered (radiusFragment column) [.float, .float, .float]]
        else [] := by
    cases lat <;> cases lng <;> cases km <;> rfl
  rw [Call.outline, Call.outline, hparts, hparts, h]
  rfl

end Calls

namespace Builder

/-- The same outline, or the same fault. -/
def Twins (result result' : Except Fault Builder) : Prop :=
  result.map outline = result'.map outline

variable {b b' : Builder}

private theorem Twins.ok_or_error {result result' : Except Fault Builder}
    (h : Twins result result') :
    (∃ c c', result = .ok c ∧ result' = .ok c' ∧ c.outline = c'.outline) ∨
      ∃ fault, result = .error fault ∧ result' = .error fault := by
  cases result with
  | ok c =>
    cases result' with
    | ok c' => exact .inl ⟨c, c', rfl, rfl, Except.ok.inj h⟩
    | error fault => cases h
  | error fault =>
    cases result' with
    | ok c' => cases h
    | error fault' => exact .inr ⟨fault, rfl, congrArg Except.error (Except.error.inj h).symm⟩

private theorem append_twins (hb : b.outline = b'.outline) (fragment : String)
    {values values' : List Value} (h : values.map Value.kind = values'.map Value.kind) :
    Twins (b.append fragment values) (b'.append fragment values') := by
  have hlength : values.length = values'.length := by
    simpa only [List.length_map] using congrArg List.length h
  simp only [outline, BuilderOutline.mk.injEq] at hb
  obtain ⟨hfragments, hkinds, hnext, hstage, hguards⟩ := hb
  rw [Twins, append, append, hnext, numberMarkers_congr hlength]
  cases numberMarkers b'.next fragment.toList values' with
  | ok text =>
    simp [Except.map, outline, hfragments, hkinds, hstage, hguards, h, hlength]
  | error misfit => cases misfit <;> rfl

private theorem appendShared_twins (hb : b.outline = b'.outline) (fragment : String)
    {value value' : Value} (h : value.kind = value'.kind) :
    Twins (b.appendShared fragment value) (b'.appendShared fragment value') := by
  simp only [outline, BuilderOutline.mk.injEq] at hb
  obtain ⟨hfragments, hkinds, hnext, hstage, hguards⟩ := hb
  rw [Twins, appendShared, appendShared, hnext]
  split
  · rfl
  · simp [Except.map, outline, hfragments, hkinds, hstage, hguards, h]

private theorem add_twins {p q : Part} (hb : b.outline = b'.outline)
    (h : p.outline = q.outline) : Twins (b.add p) (b'.add q) := by
  cases p with
  | fixed fragment =>
    cases q <;> cases h
    simp only [outline, BuilderOutline.mk.injEq] at hb
    simp [Twins, add, Except.map, outline, hb]
  | numbered fragment values =>
    cases q <;> simp only [Part.outline, PartOutline.numbered.injEq, reduceCtorEq] at h
    rw [add, add, h.1]
    exact append_twins hb _ h.2
  | shared fragment value =>
    cases q <;> simp only [Part.outline, PartOutline.shared.injEq, reduceCtorEq] at h
    rw [add, add, h.1]
    exact appendShared_twins hb _ h.2

private theorem foldlM_twins {α β : Type} {f : Builder → α → Except Fault Builder}
    (shape : α → β)
    (hstep : ∀ c c' x x', c.outline = c'.outline → shape x = shape x' → Twins (f c x) (f c' x'))
    {xs ys : List α} (h : xs.map shape = ys.map shape) (hb : b.outline = b'.outline) :
    Twins (xs.foldlM f b) (ys.foldlM f b') := by
  induction xs generalizing ys b b' with
  | nil =>
    rw [List.map_eq_nil_iff.mp h.symm]
    exact congrArg Except.ok hb
  | cons x xs ih =>
    cases ys with
    | nil => cases h
    | cons y ys =>
      obtain ⟨hxy, hrest⟩ := List.cons.inj h
      rw [List.foldlM_cons, List.foldlM_cons]
      rcases (hstep b b' x y hb hxy).ok_or_error with ⟨c, c', hx, hy, hc⟩ | ⟨fault, hx, hy⟩
      · rw [hx, hy]
        exact ih hrest hc
      · rw [hx, hy]
        rfl

private theorem apply_twins {call call' : Call} (hb : b.outline = b'.outline)
    (h : call.outline = call'.outline) : Twins (b.apply call) (b'.apply call') := by
  obtain ⟨hstage, hparts⟩ := Prod.mk.inj h
  have hempty : call.parts.isEmpty = call'.parts.isEmpty := by
    simpa only [List.isEmpty_map] using congrArg List.isEmpty hparts
  rw [apply_eq, apply_eq, hempty, hstage]
  split
  · exact congrArg Except.ok hb
  · cases call'.stage? with
    | none => exact foldlM_twins Part.outline (fun _ _ _ _ => add_twins) hparts hb
    | some stage =>
      have hbefore : b.stage = b'.stage := congrArg BuilderOutline.stage hb
      rw [enter?, enter?, enter, enter, hbefore]
      split
      · rfl
      · refine foldlM_twins Part.outline (fun _ _ _ _ => add_twins) hparts ?_
        simp only [outline, BuilderOutline.mk.injEq] at hb ⊢
        exact ⟨hb.1, hb.2.1, hb.2.2.1, trivial, hb.2.2.2.2⟩

theorem run_twins {calls calls' : List Call} (h : calls.map Call.outline = calls'.map Call.outline)
    (hb : b.outline = b'.outline) : Twins (calls.foldlM apply b) (calls'.foldlM apply b') :=
  foldlM_twins Call.outline (fun _ _ _ _ => apply_twins) h hb

end Builder

end FleetTrail.Query
