import FleetTrail.Proofs.Json.Bytes
import FleetTrail.Proofs.Telemetry.Fields

/-!
# Samples in JSON

A sample is an object whose fields go by their names, or a list of all of them in their order. The
visits to the fields of an object come to the payload that the object stands for.
-/

namespace FleetTrail.Telemetry

namespace Field

def place (f : Field) : Nat := f.ctorIdx

/-- What an object gives a field under its name. -/
def named (f : Field) (fs : List (String × Json.Value)) : Option Json.Value := fs.lookup f.name

/-- What an object gives a coordinate under its second spelling. -/
def renamed (f : Field) (fs : List (String × Json.Value)) : Option Json.Value :=
  f.alias?.bind fun name => fs.lookup name

end Field

/-- A value that has the shape of a sample, with the values it gives the fields. What an object
leaves out is `null`, and it spells no coordinate twice. -/
inductive Shaped : Json.Value → (Field → Json.Value) → Prop
  | object {fs : List (String × Json.Value)}
      (hone : ∀ f : Field, f.named fs = none ∨ f.renamed fs = none) :
      Shaped (.record fs) fun f => ((f.named fs).or (f.renamed fs)).getD .null
  | list {items : List Json.Value} (hlength : items.length = 13) :
      Shaped (.list items) fun f => items.getD f.place .null

def SampleOf (v : Json.Value) (p : Payload) : Prop :=
  ∃ given, Shaped v given ∧ ∀ f : Field, f.kind.Holds (given f) (p.get f)

theorem sampleOf_object_iff {fs : List (String × Json.Value)} {p : Payload} :
    SampleOf (.record fs) p ↔ ∀ f : Field, (f.named fs = none ∨ f.renamed fs = none) ∧
      f.kind.Holds (((f.named fs).or (f.renamed fs)).getD .null) (p.get f) := by
  constructor
  · intro h f
    obtain ⟨_, ⟨hone⟩, hholds⟩ := h
    exact ⟨hone f, hholds f⟩
  · intro h
    exact ⟨_, .object fun f => (h f).1, fun f => (h f).2⟩

theorem sampleOf_list_iff {items : List Json.Value} {p : Payload} :
    SampleOf (.list items) p ↔
      items.length = 13 ∧ ∀ f : Field, f.kind.Holds (items.getD f.place .null) (p.get f) := by
  constructor
  · intro h
    obtain ⟨_, hshaped, hholds⟩ := h
    obtain - | hlength := hshaped
    exact ⟨hlength, hholds⟩
  · intro h
    exact ⟨_, .list h.1, h.2⟩

theorem ofItems_eq_ok_iff {items : List Json.Value} {p : Payload} :
    ofItems items = .ok p ↔
      items.length = 13 ∧ ∀ f : Field, f.kind.Holds (items.getD f.place .null) (p.get f) := by
  rw [ofItems]
  simp only [bind_eq_ok_iff, pure_eq_ok_iff, readId_eq_ok_iff, readLevel_eq_ok_iff,
    readText_eq_ok_iff, guard_eq_ok_iff]
  constructor
  · intro h
    obtain ⟨companyId, h0, vehicleId, h1, driverId, h2, offerId, h3, tripId, h4, battery, h5,
      speed, h6, heading, h7, accuracy, h8, lat, h9, lng, h10, hlow, status, h11, hnext,
      loggedAt, h12, hhigh, rfl⟩ := h
    refine ⟨by omega, ?_⟩
    intro f
    cases f <;> assumption
  · intro h
    obtain ⟨hlength, hholds⟩ := h
    exact ⟨_, hholds .companyId, _, hholds .vehicleId, _, hholds .driverId, _, hholds .offerId,
      _, hholds .tripId, _, hholds .batteryLevel, _, hholds .speed, _, hholds .heading,
      _, hholds .accuracy, _, hholds .lat, _, hholds .lng, by omega, _, hholds .status, by omega,
      _, hholds .loggedAt, by omega, rfl⟩

namespace Visited

variable {seen after : Visited} {f g : Field} {name : String} {v : Json.Value}

/-- Whether a coordinate was given already; for other fields it is not kept. -/
def given (seen : Visited) : Field → Bool
  | .lat => seen.latGiven
  | .lng => seen.lngGiven
  | _ => false

def put (seen : Visited) (f : Field) (x : Option f.kind.Content) : Visited where
  payload := seen.payload.put f x
  latGiven := seen.latGiven || decide (f = .lat)
  lngGiven := seen.lngGiven || decide (f = .lng)

theorem visit_name : visit seen (f.name, v) =
    if seen.given f then .error (.duplicateField f.name)
    else (f.kind.read v).map (seen.put f) := by
  cases f with
  | companyId | vehicleId | driverId | offerId | tripId =>
    simp only [Field.name, visit, Field.kind, Kind.read]
    cases readId v <;> simp [given, put, Payload.put, Except.map]
  | batteryLevel | speed | heading | accuracy =>
    simp only [Field.name, visit, Field.kind, Kind.read]
    cases readLevel v <;> simp [given, put, Payload.put, Except.map]
  | lat =>
    simp only [Field.name, visit, visitLat, Field.kind, Kind.read, given]
    by_cases h : seen.latGiven = true
    · simp only [h, if_true]
      rfl
    · cases readLevel v <;> simp [h, put, Payload.put, Except.map]
  | lng =>
    simp only [Field.name, visit, visitLng, Field.kind, Kind.read, given]
    by_cases h : seen.lngGiven = true
    · simp only [h, if_true]
      rfl
    · cases readLevel v <;> simp [h, put, Payload.put, Except.map]
  | status | loggedAt =>
    simp only [Field.name, visit, Field.kind, Kind.read]
    cases readText v <;> simp [given, put, Payload.put, Except.map]

theorem visit_alias (h : f.alias? = some name) :
    visit seen (name, v) = visit seen (f.name, v) := by
  cases f with
  | lat | lng =>
    cases h
    simp only [Field.name, visit]
  | _ => cases h

theorem visit_other (h : ∀ f : Field, name ≠ f.name ∧ f.alias? ≠ some name) :
    visit seen (name, v) = .ok seen := by
  unfold visit
  dsimp only
  split
  · exact absurd rfl (h .companyId).1
  · exact absurd rfl (h .vehicleId).1
  · exact absurd rfl (h .driverId).1
  · exact absurd rfl (h .offerId).1
  · exact absurd rfl (h .tripId).1
  · exact absurd rfl (h .batteryLevel).1
  · exact absurd rfl (h .speed).1
  · exact absurd rfl (h .heading).1
  · exact absurd rfl (h .accuracy).1
  · exact absurd rfl (h .lat).1
  · exact absurd rfl (h .lat).2
  · exact absurd rfl (h .lng).1
  · exact absurd rfl (h .lng).2
  · exact absurd rfl (h .status).1
  · exact absurd rfl (h .loggedAt).1
  · rfl

theorem given_put_same (x : Option f.kind.Content) :
    (seen.put f x).given f = (seen.given f || f.alias?.isSome) := by
  cases f <;> simp [given, put, Field.alias?]

theorem given_put_other (h : g ≠ f) (x : Option f.kind.Content) :
    (seen.put f x).given g = seen.given g := by
  cases g with
  | lat | lng => simp [given, put, Ne.symm h]
  | _ => rfl

theorem eq_of_get (hget : ∀ f, after.payload.get f = seen.payload.get f)
    (hgiven : ∀ f, after.given f = seen.given f) : after = seen := by
  cases after
  cases seen
  simp only [mk.injEq]
  exact ⟨Payload.eq_of_get hget, hgiven .lat, hgiven .lng⟩

end Visited

namespace Field

def GoesBy (f : Field) (name : String) : Prop := name = f.name ∨ f.alias? = some name

variable {f g : Field} {name : String} {fs : List (String × Json.Value)} {v : Json.Value}

theorem GoesBy.unique (hf : f.GoesBy name) (hg : g.GoesBy name) : f = g := by
  obtain rfl | hf := hf
  · cases f <;> cases g <;> first | rfl | (simp [GoesBy, Field.name, alias?] at hg)
  · cases f with
    | lat | lng =>
      cases hf
      cases g <;> first | rfl | (simp [GoesBy, Field.name, alias?] at hg)
    | _ => cases hf

theorem alias_ne_name : f.alias? ≠ some f.name := by
  cases f <;> simp [Field.name, alias?]

theorem named_cons : f.named ((name, v) :: fs) = if f.name = name then some v else f.named fs := by
  by_cases h : f.name = name
  · simp [named, h]
  · simp [named, List.lookup_cons, beq_eq_false_iff_ne.2 h, h]

theorem renamed_cons :
    f.renamed ((name, v) :: fs) = if f.alias? = some name then some v else f.renamed fs := by
  rw [renamed, renamed]
  cases f.alias? with
  | none => simp
  | some other =>
    by_cases h : other = name
    · simp [h]
    · simp [List.lookup_cons, beq_eq_false_iff_ne.2 h, h]

theorem isSome_alias_of_renamed (h : f.renamed fs = some v) : f.alias?.isSome = true := by
  obtain ⟨other, hother, -⟩ := Option.bind_eq_some_iff.mp h
  rw [hother]
  rfl

/-- What the visits to an object do to one field, by what the object gives it under its name and
under its second spelling. -/
inductive Visits (f : Field) (seen after : Visited) : Option Json.Value → Option Json.Value → Prop
  | absent (hget : after.payload.get f = seen.payload.get f)
      (hgiven : after.given f = seen.given f) : Visits f seen after none none
  | named {v : Json.Value} (hfresh : seen.given f = false)
      (hv : f.kind.Holds v (after.payload.get f)) (hgiven : after.given f = f.alias?.isSome) :
      Visits f seen after (some v) none
  | renamed {v : Json.Value} (hfresh : seen.given f = false)
      (hv : f.kind.Holds v (after.payload.get f)) (hgiven : after.given f = f.alias?.isSome) :
      Visits f seen after none (some v)

variable {seen after : Visited}

private theorem visits_put_none (hfresh : seen.given f = false) {x : Option f.kind.Content} :
    f.Visits (seen.put f x) after none none ↔
      after.payload.get f = x ∧ after.given f = f.alias?.isSome := by
  constructor
  · intro h
    obtain ⟨hget, hgiven⟩ | _ | _ := h
    rw [Visited.given_put_same, hfresh, Bool.false_or] at hgiven
    exact ⟨hget.trans (Payload.get_put_same x), hgiven⟩
  · intro h
    obtain ⟨hget, hgiven⟩ := h
    apply Visits.absent
    · exact hget.trans (Payload.get_put_same x).symm
    · rw [Visited.given_put_same, hfresh, Bool.false_or, hgiven]

/-- A coordinate that is given once is not to be given again. -/
private theorem not_visits_put (halias : f.alias?.isSome = true) {x : Option f.kind.Content}
    {first second : Option Json.Value} (hsome : first.isSome ∨ second.isSome) :
    ¬f.Visits (seen.put f x) after first second := by
  intro h
  have hgiven : (seen.put f x).given f = true := by
    rw [Visited.given_put_same, halias, Bool.or_true]
  cases h with
  | absent => simp at hsome
  | named hfresh | renamed hfresh =>
    rw [hgiven] at hfresh
    cases hfresh

/-- The visit to a field of a name that does not come again settles what that name gives. -/
private theorem visits_cons_self (hby : f.GoesBy name) (hnew : fs.lookup name = none) :
    f.Visits seen after (f.named ((name, v) :: fs)) (f.renamed ((name, v) :: fs)) ↔
      seen.given f = false ∧ ∃ x, f.kind.Holds v x ∧
        f.Visits (seen.put f x) after (f.named fs) (f.renamed fs) := by
  rw [named_cons, renamed_cons]
  obtain rfl | halias := hby
  · rw [if_pos rfl, if_neg alias_ne_name, show f.named fs = none from hnew]
    cases hsecond : f.renamed fs with
    | none =>
      constructor
      · intro h
        obtain _ | ⟨hfresh, hv, hgiven⟩ | _ := h
        exact ⟨hfresh, _, hv, (visits_put_none hfresh).mpr ⟨rfl, hgiven⟩⟩
      · intro h
        obtain ⟨hfresh, x, hv, hvisits⟩ := h
        obtain ⟨rfl, hgiven⟩ := (visits_put_none hfresh).mp hvisits
        exact .named hfresh hv hgiven
    | some w =>
      have halias := isSome_alias_of_renamed hsecond
      constructor
      · intro h
        cases h
      · intro h
        obtain ⟨-, x, -, hvisits⟩ := h
        exact absurd hvisits (not_visits_put halias (.inr rfl))
  · have hother : f.name ≠ name := by
      rintro rfl
      exact alias_ne_name halias
    have hsecond : f.renamed fs = none := by
      rw [Field.renamed, halias]
      exact hnew
    rw [if_neg hother, if_pos halias, hsecond]
    cases hfirst : f.named fs with
    | none =>
      constructor
      · intro h
        obtain _ | _ | ⟨hfresh, hv, hgiven⟩ := h
        exact ⟨hfresh, _, hv, (visits_put_none hfresh).mpr ⟨rfl, hgiven⟩⟩
      · intro h
        obtain ⟨hfresh, x, hv, hvisits⟩ := h
        obtain ⟨rfl, hgiven⟩ := (visits_put_none hfresh).mp hvisits
        exact .renamed hfresh hv hgiven
    | some w =>
      constructor
      · intro h
        cases h
      · intro h
        obtain ⟨-, x, -, hvisits⟩ := h
        exact absurd hvisits (not_visits_put (by rw [halias]; rfl) (.inl rfl))

private theorem visits_cons_other (hby : ¬f.GoesBy name) :
    f.Visits seen after (f.named ((name, v) :: fs)) (f.renamed ((name, v) :: fs)) ↔
      f.Visits seen after (f.named fs) (f.renamed fs) := by
  obtain ⟨hname, halias⟩ := not_or.mp hby
  rw [named_cons, renamed_cons, if_neg (Ne.symm hname), if_neg halias]

private theorem visits_put_other (h : f ≠ g) {x : Option g.kind.Content}
    {first second : Option Json.Value} :
    f.Visits (seen.put g x) after first second ↔ f.Visits seen after first second := by
  have hget : (seen.put g x).payload.get f = seen.payload.get f := Payload.get_put_other h x
  have hgiven : (seen.put g x).given f = seen.given f := Visited.given_put_other h x
  constructor
  · intro h
    cases h with
    | absent hg hb => exact .absent (hg.trans hget) (hb.trans hgiven)
    | named hfresh hv hb => exact .named (hgiven ▸ hfresh) hv hb
    | renamed hfresh hv hb => exact .renamed (hgiven ▸ hfresh) hv hb
  · intro h
    cases h with
    | absent hg hb => exact .absent (hg.trans hget.symm) (hb.trans hgiven.symm)
    | named hfresh hv hb => exact .named (hgiven ▸ hfresh) hv hb
    | renamed hfresh hv hb => exact .renamed (hgiven ▸ hfresh) hv hb

end Field

private theorem visit_eq_ok_iff {seen after : Visited} {f : Field} {name : String} {v : Json.Value}
    (hby : f.GoesBy name) : visit seen (name, v) = .ok after ↔
      seen.given f = false ∧ ∃ x, f.kind.Holds v x ∧ seen.put f x = after := by
  have hvisit : visit seen (name, v) = visit seen (f.name, v) := by
    obtain rfl | halias := hby
    · rfl
    · exact Visited.visit_alias halias
  rw [hvisit, Visited.visit_name]
  cases hgiven : seen.given f with
  | true => simp
  | false =>
    simp only [Bool.false_eq_true, if_false, true_and]
    constructor
    · intro h
      cases hread : f.kind.read v with
      | error fault =>
        rw [hread] at h
        cases h
      | ok x =>
        rw [hread] at h
        cases h
        exact ⟨x, Kind.read_eq_ok_iff.mp hread, rfl⟩
    · intro h
      obtain ⟨x, hx, rfl⟩ := h
      rw [Kind.read_eq_ok_iff.mpr hx]
      rfl

theorem foldlM_visit_eq_ok_iff {fs : List (String × Json.Value)}
    (hnames : fs.Pairwise (·.1 < ·.1)) {seen after : Visited} :
    fs.foldlM visit seen = .ok after ↔
      ∀ f : Field, f.Visits seen after (f.named fs) (f.renamed fs) := by
  -- Over the fields to come, with `seen` what those before them gave. The field that the first name
  -- belongs to is settled by it, as the name does not come again; all others wait.
  induction hnames generalizing seen with
  | nil =>
    have hsecond (f : Field) : f.renamed [] = none := by cases f <;> rfl
    rw [List.foldlM_nil, pure_eq_ok_iff]
    constructor
    · intro h f
      rw [hsecond, h]
      exact .absent rfl rfl
    · intro h
      symm
      apply Visited.eq_of_get
      all_goals
        intro f
        have hf := h f
        rw [hsecond] at hf
        obtain ⟨hget, hgiven⟩ := hf
      · exact hget
      · exact hgiven
  | @cons field fs hfirst _ ih =>
    obtain ⟨name, v⟩ := field
    have hnew : fs.lookup name = none := by
      rw [List.lookup_eq_none_iff]
      intro other hother
      have hlt := hfirst other hother
      rw [bne_iff_ne]
      rintro rfl
      exact String.lt_irrefl _ hlt
    rw [List.foldlM_cons, bind_eq_ok_iff]
    by_cases hby : ∃ f : Field, f.GoesBy name
    · obtain ⟨g, hg⟩ := hby
      simp only [visit_eq_ok_iff hg, ih]
      constructor
      · intro h f
        obtain ⟨mid, ⟨hfresh, x, hx, rfl⟩, hvisits⟩ := h
        by_cases hf : f = g
        · subst hf
          exact (Field.visits_cons_self hg hnew).mpr ⟨hfresh, x, hx, hvisits f⟩
        · have hnot : ¬f.GoesBy name := fun hf' => hf (hf'.unique hg)
          rw [Field.visits_cons_other hnot]
          exact (Field.visits_put_other hf).mp (hvisits f)
      · intro h
        obtain ⟨hfresh, x, hx, hvisits⟩ := (Field.visits_cons_self hg hnew).mp (h g)
        refine ⟨seen.put g x, ⟨hfresh, x, hx, rfl⟩, ?_⟩
        intro f
        by_cases hf : f = g
        · subst hf
          exact hvisits
        · have hnot : ¬f.GoesBy name := fun hf' => hf (hf'.unique hg)
          rw [Field.visits_put_other hf, ← Field.visits_cons_other hnot]
          exact h f
    · have hother : ∀ f : Field, ¬f.GoesBy name := not_exists.mp hby
      rw [Visited.visit_other fun f => not_or.mp (hother f)]
      simp only [Field.visits_cons_other (hother _), ← ih, Except.ok.injEq]
      constructor
      · intro h
        obtain ⟨_, rfl, h⟩ := h
        exact h
      · intro h
        exact ⟨seen, rfl, h⟩

private theorem given_start (f : Field) : ({} : Visited).given f = false := by
  cases f <;> rfl

private theorem Field.Visits.holds {f : Field} {after : Visited} {first second : Option Json.Value}
    (h : f.Visits {} after first second) : (first = none ∨ second = none) ∧
      f.kind.Holds ((first.or second).getD .null) (after.payload.get f) := by
  cases h with
  | absent hget _ =>
    refine ⟨.inl rfl, ?_⟩
    rw [hget, Payload.get_default]
    exact Kind.holds_null_iff.mpr rfl
  | named _ hv _ => exact ⟨.inr rfl, hv⟩
  | renamed _ hv _ => exact ⟨.inl rfl, hv⟩

private theorem Field.visits_of_holds {f : Field} {after : Visited}
    {first second : Option Json.Value} (hone : first = none ∨ second = none)
    (hv : f.kind.Holds ((first.or second).getD .null) (after.payload.get f))
    (hgiven : after.given f = (f.alias?.isSome && (first.or second).isSome)) :
    f.Visits {} after first second := by
  cases first with
  | none =>
    cases second with
    | none =>
      apply Field.Visits.absent
      · rw [Payload.get_default]
        exact Kind.holds_null_iff.mp hv
      · rw [hgiven, given_start]
        simp
    | some v => exact .renamed (given_start f) hv (by simpa using hgiven)
  | some v =>
    obtain hfirst | rfl := hone
    · cases hfirst
    · exact .named (given_start f) hv (by simpa using hgiven)

private theorem object_eq_ok_iff {fs : List (String × Json.Value)}
    (hnames : fs.Pairwise (·.1 < ·.1)) {p : Payload} :
    Payload.ofJson (.record fs) = .ok p ↔ SampleOf (.record fs) p := by
  rw [Payload.ofJson]
  simp only [bind_eq_ok_iff, pure_eq_ok_iff, foldlM_visit_eq_ok_iff hnames]
  rw [sampleOf_object_iff]
  constructor
  · intro h
    obtain ⟨after, hvisits, rfl⟩ := h
    intro f
    exact (hvisits f).holds
  · intro h
    let some? (f : Field) : Bool := ((f.named fs).or (f.renamed fs)).isSome
    refine ⟨⟨p, some? .lat, some? .lng⟩, ?_, rfl⟩
    intro f
    obtain ⟨hone, hholds⟩ := h f
    apply Field.visits_of_holds hone hholds
    cases f <;> rfl

theorem Payload.ofJson_eq_ok_iff {v : Json.Value} (hv : Json.Ordered v) {p : Payload} :
    Payload.ofJson v = .ok p ↔ SampleOf v p := by
  cases hv with
  | record hnames => exact object_eq_ok_iff hnames
  | list => rw [Payload.ofJson, ofItems_eq_ok_iff, sampleOf_list_iff]
  | null | bool | int | float | text =>
    constructor
    · intro h
      cases h
    · intro h
      obtain ⟨given, hshaped, -⟩ := h
      cases hshaped

end FleetTrail.Telemetry
