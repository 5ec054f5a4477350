import FleetTrail.Proofs.Telemetry.Decoding
import FleetTrail.Proofs.Text.Blank

/-!
# Lenient numbers

Devices may write a number as text, an absent number as `null`, as a blank text or not at all, and
a coordinate under either of its names. None of it changes what a payload decodes to. In a field
for an id, though, nothing but a whole number of 64 bits passes.
-/

namespace FleetTrail.Telemetry

open Json (Denotes)

namespace Kind

/-- The whole numbers that a field of a kind may hold as text just as well. Up to 2 ^ 53 every whole
number is a double of its own. A zero behind a minus sign is not among them: it is read as a
double. -/
def Admits : Kind → Int → Prop
  | .id, n => -2 ^ 63 ≤ n ∧ n < 2 ^ 63
  | .level, n => n.natAbs ≤ 2 ^ 53
  | .text, _ => False

/-- A value and another one that may be written for it in a field of a kind. -/
inductive Recasts (k : Kind) : Json.Value → Json.Value → Prop
  | kept (v : Json.Value) : Recasts k v v
  | spelled {n : Int} {s : String} {before cs after : List Char} (hn : k.Admits n)
      (hs : s.toList = before ++ cs ++ after) (hbefore : before.all Text.isBlank = true)
      (hcs : Number.Spells n cs) (hafter : after.all Text.isBlank = true) :
      Recasts k (.int n) (.text s)
  | blanked {s : String} (hk : k ≠ .text) (hs : Text.allBlank s = true) :
      Recasts k .null (.text s)

variable {k : Kind} {v v' : Json.Value}

private theorem holds_congr {x : Option k.Content} (hv : k.Holds v x) (hv' : k.Holds v' x)
    (y : Option k.Content) : k.Holds v y ↔ k.Holds v' y := by
  constructor
  · intro h
    rwa [h.unique hv]
  · intro h
    rwa [h.unique hv']

theorem Recasts.holds_iff (h : k.Recasts v v') (x : Option k.Content) :
    k.Holds v x ↔ k.Holds v' x := by
  cases h with
  | kept => exact Iff.rfl
  | blanked hk hs =>
    apply holds_congr (holds_null_iff.mpr rfl)
    cases k with
    | id => exact HoldsId.blank hs
    | level => exact HoldsLevel.blank hs
    | text => exact absurd rfl hk
  | @spelled n s before cs after hn hs hbefore hcs hafter =>
    obtain ⟨hne, hsolid⟩ := hcs.not_blank
    have htrim : Text.trim s.toList = cs := by rw [hs, Text.trim_solid hsolid hbefore hafter]
    cases k with
    | id =>
      have hword : (Int64.ofInt n).toInt = n := Int64.toInt_ofInt_of_le hn.1 hn.2
      have hv : Kind.id.Holds (.int (Int64.ofInt n).toInt) (some (Int64.ofInt n)) := .number _
      rw [hword] at hv
      apply holds_congr hv
      apply HoldsId.written
      rw [htrim, hword]
      exact hcs.whole
    | level =>
      have hv : Kind.level.Holds (.int n) (some (Float.ofInt n)) := .whole n
      apply holds_congr hv
      apply HoldsLevel.written
      · rw [Text.allBlank, ← Text.trim_eq_nil_iff, htrim]
        exact hne
      · rw [htrim]
        exact hcs.readFloat hn
    | text => cases hn

end Kind

/-- What an object gives a field under its two names, and what another one may give it instead.
A coordinate that comes under both names keeps them both. -/
inductive Field.Moves (f : Field) : Option Json.Value → Option Json.Value →
    Option Json.Value → Option Json.Value → Prop
  | absent : Moves f none none none none
  | named {v v' : Json.Value} (h : f.kind.Recasts v v') : Moves f (some v) none (some v') none
  | renamed {v v' : Json.Value} (h : f.kind.Recasts v v') : Moves f none (some v) none (some v')
  | both {v v' w w' : Json.Value} (hv : f.kind.Recasts v v') (hw : f.kind.Recasts w w') :
      Moves f (some v) (some w) (some v') (some w')
  | leftOut (hk : f.kind ≠ .text) : Moves f (some .null) none none none
  | leftOutRenamed (hk : f.kind ≠ .text) : Moves f none (some .null) none none
  | respelled {v v' : Json.Value} (h : f.kind.Recasts v v') :
      Moves f (some v) none none (some v')

inductive SampleRecast : Json.Value → Json.Value → Prop
  | kept (v : Json.Value) : SampleRecast v v
  | object {fs fs' : List (String × Json.Value)}
      (hother : ∀ name, (∀ f : Field, ¬f.GoesBy name) → fs'.lookup name = fs.lookup name)
      (hfields : ∀ f : Field,
        f.Moves (f.named fs) (f.renamed fs) (f.named fs') (f.renamed fs')) :
      SampleRecast (.record fs) (.record fs')
  | list {items items' : List Json.Value} (hlength : items'.length = items.length)
      (hitems : ∀ f : Field,
        f.kind.Recasts (items.getD f.place .null) (items'.getD f.place .null)) :
      SampleRecast (.list items) (.list items')

/-- A message and another one with the numbers in its samples written anew. -/
inductive PayloadRecast : Json.Value → Json.Value → Prop
  | kept (v : Json.Value) : PayloadRecast v v
  | bare {v v' : Json.Value} (hfield : v.field? "samples" = none) (h : SampleRecast v v') :
      PayloadRecast v v'
  | envelope {v v' : Json.Value} {items items' : List Json.Value}
      (hfield : v.field? "samples" = some (.list items))
      (hfield' : v'.field? "samples" = some (.list items'))
      (hother : ∀ name ≠ "samples", v'.field? name = v.field? name)
      (h : List.Forall₂ SampleRecast items items') : PayloadRecast v v'

section Recasts

variable {v v' : Json.Value} {p : Payload} {message : Message}

private theorem Field.Moves.holds_iff {f : Field} {first second first' second' : Option Json.Value}
    (h : f.Moves first second first' second') (x : Option f.kind.Content) :
    (first = none ∨ second = none) ∧ f.kind.Holds ((first.or second).getD .null) x ↔
      (first' = none ∨ second' = none) ∧ f.kind.Holds ((first'.or second').getD .null) x := by
  cases h with
  | absent => exact Iff.rfl
  | named h | renamed h | respelled h => simpa using h.holds_iff x
  | both => simp
  | leftOut | leftOutRenamed => simp

theorem SampleRecast.sampleOf_iff (h : SampleRecast v v') : SampleOf v p ↔ SampleOf v' p := by
  cases h with
  | kept => exact Iff.rfl
  | object _ hfields =>
    rw [sampleOf_object_iff, sampleOf_object_iff]
    apply forall_congr'
    intro f
    exact (hfields f).holds_iff (p.get f)
  | list hlength hitems =>
    rw [sampleOf_list_iff, sampleOf_list_iff, hlength]
    apply and_congr_right
    intro _
    apply forall_congr'
    intro f
    exact (hitems f).holds_iff (p.get f)

private theorem forall₂_sampleOf_iff {items items' : List Json.Value} {samples : List Payload}
    (h : List.Forall₂ SampleRecast items items') :
    List.Forall₂ SampleOf items samples ↔ List.Forall₂ SampleOf items' samples := by
  induction h generalizing samples with
  | nil => exact Iff.rfl
  | cons hitem _ ih => simp only [List.forall₂_cons_left_iff, hitem.sampleOf_iff, ih]

private theorem no_field_goes_by_samples (f : Field) : ¬f.GoesBy "samples" := by
  cases f <;> simp [Field.GoesBy, Field.name, Field.alias?]

private theorem SampleRecast.samples_none (h : SampleRecast v v')
    (hfield : v.field? "samples" = none) : v'.field? "samples" = none := by
  cases h with
  | kept => exact hfield
  | object hother _ => exact (hother "samples" no_field_goes_by_samples).trans hfield
  | list => rfl

/-- A message written anew says what it said. -/
theorem PayloadRecast.converts_iff (h : PayloadRecast v v') :
    Converts v message ↔ Converts v' message := by
  cases h with
  | kept => exact Iff.rfl
  | bare hfield h =>
    have hfield' := h.samples_none hfield
    constructor
    · intro hc
      cases hc with
      | envelope hsome => simp [hfield] at hsome
      | bare _ hsample => exact .bare hfield' (h.sampleOf_iff.mp hsample)
    · intro hc
      cases hc with
      | envelope hsome => simp [hfield'] at hsome
      | bare _ hsample => exact .bare hfield (h.sampleOf_iff.mpr hsample)
  | envelope hfield hfield' hother h =>
    have huuid := hother "uuid" (by decide)
    constructor
    · intro hc
      cases hc with
      | envelope hsome hsamples hheld =>
        cases hfield.symm.trans hsome
        exact .envelope hfield' ((forall₂_sampleOf_iff h).mp hsamples) (huuid ▸ hheld)
      | bare hnone => simp [hfield] at hnone
    · intro hc
      cases hc with
      | envelope hsome hsamples hheld =>
        cases hfield'.symm.trans hsome
        exact .envelope hfield ((forall₂_sampleOf_iff h).mpr hsamples) (huuid ▸ hheld)
      | bare hnone => simp [hfield'] at hnone

end Recasts

def samplesOf (v : Json.Value) : List Json.Value :=
  match v.field? "samples" with
  | none => [v]
  | some (.list items) => items
  | some _ => []

/-- What an id may be written as: no fraction and nothing beyond 64 bits, as a number or as text. -/
structure PlainId (v : Json.Value) : Prop where
  float (x : Float) : v ≠ .float x
  int (n : Int) (h : v = .int n) : -2 ^ 63 ≤ n ∧ n < 2 ^ 63
  text (s : String) (h : v = .text s) : Text.allBlank s = true ∨
    ∃ n, Number.Whole (Text.trim s.toList) n ∧ -2 ^ 63 ≤ n ∧ n < 2 ^ 63

private theorem plainId_of_holds {v : Json.Value} {x : Option Int64} (h : HoldsId v x) :
    PlainId v := by
  constructor
  · rintro y rfl
    cases h
  · rintro n rfl
    cases h with
    | number n => exact ⟨n.le_toInt, n.toInt_lt⟩
  · rintro s rfl
    cases h with
    | blank hs => exact .inl hs
    | @written _ n hwhole => exact .inr ⟨n.toInt, hwhole, n.le_toInt, n.toInt_lt⟩

private theorem exists_sampleOf {v sample : Json.Value} {message : Message}
    (h : Converts v message) (hsample : sample ∈ samplesOf v) : ∃ p, SampleOf sample p := by
  cases h with
  | envelope hfield hsamples =>
    simp only [samplesOf, hfield] at hsample
    obtain ⟨p, -, hp⟩ := exists_of_forall₂ hsamples.flip hsample
    exact ⟨p, hp⟩
  | bare hfield hsingle =>
    simp only [samplesOf, hfield, List.mem_singleton] at hsample
    subst hsample
    exact ⟨_, hsingle⟩

private theorem plainId_of_shaped {v : Json.Value} {p : Payload} {given : Field → Json.Value}
    (h : SampleOf v p) (hshaped : Shaped v given) {f : Field} (hf : f.kind = .id) :
    PlainId (given f) := by
  obtain ⟨given', hshaped', hholds⟩ := h
  have hsame : given' = given := by
    cases hshaped with
    | object => cases hshaped'; rfl
    | list => cases hshaped'; rfl
  have hid := hholds f
  rw [hsame] at hid
  generalize p.get f = x at hid
  revert x
  rw [hf]
  intro x hid
  exact plainId_of_holds hid

/-- Numbers may be written in any of the ways that devices write them, and the batch stays the same.
An id in a payload that decodes is a whole number of 64 bits wherever it is written. -/
theorem leniency_is_transparent {bytes bytes' : ByteArray} {v v' : Json.Value}
    (hv : Denotes bytes v) (hv' : Denotes bytes' v') (hrecast : PayloadRecast v v') :
    (∀ batch, Batch.ofBytes bytes = .ok batch ↔ Batch.ofBytes bytes' = .ok batch) ∧
    ∀ batch, Batch.ofBytes bytes = .ok batch → ∀ sample ∈ samplesOf v, ∀ given,
      Shaped sample given → ∀ f : Field, f.kind = .id → PlainId (given f) := by
  constructor
  · intro batch
    rw [Batch.ofBytes_eq_ok_iff, Batch.ofBytes_eq_ok_iff]
    constructor
    · intro h
      obtain ⟨u, message, hu, hconverts, hrest⟩ := h
      rw [hu.unique hv] at hconverts
      exact ⟨v', message, hv', hrecast.converts_iff.mp hconverts, hrest⟩
    · intro h
      obtain ⟨u, message, hu, hconverts, hrest⟩ := h
      rw [hu.unique hv'] at hconverts
      exact ⟨v, message, hv, hrecast.converts_iff.mpr hconverts, hrest⟩
  · intro batch hbatch sample hsample given hshaped f hf
    obtain ⟨u, message, hu, hconverts, -⟩ := Batch.ofBytes_eq_ok_iff.mp hbatch
    rw [hu.unique hv] at hconverts
    obtain ⟨p, hp⟩ := exists_sampleOf hconverts hsample
    exact plainId_of_shaped hp hshaped hf

def listed (vehicle lat : Json.Value) : Json.Value :=
  .list [.null, vehicle, .int 2, .null, .null, .null, .null, .null, .null, lat, .null, .null, .null]

theorem leniency_of_listed_sample :
    ∃ batch,
      Batch.ofBytes "[null,7,2,null,null,null,null,null,null,null,null,null,null]".toUTF8 =
        .ok batch ∧
      Batch.ofBytes "[null,\" +7\",2,null,null,null,null,null,null,\"\",null,null,null]".toUTF8 =
        .ok batch := by
  have hv : Denotes "[null,7,2,null,null,null,null,null,null,null,null,null,null]".toUTF8
      (listed (.int 7) .null) := Json.denotes_of_front? (by cbv)
  have hv' : Denotes "[null,\" +7\",2,null,null,null,null,null,null,\"\",null,null,null]".toUTF8
      (listed (.text " +7") (.text "")) := Json.denotes_of_front? (by cbv)
  have hspelled : Kind.id.Recasts (.int 7) (.text " +7") := by
    have hadmits : Kind.id.Admits 7 := by constructor <;> decide
    have hspells : Number.Spells 7 ['+', '7'] := .plus (by decide)
    exact .spelled hadmits (show " +7".toList = [' '] ++ ['+', '7'] ++ [] by simp) (by decide)
      hspells rfl
  have hblanked : Kind.level.Recasts .null (.text "") := .blanked (by decide) (by decide)
  have hrecast : PayloadRecast (listed (.int 7) .null) (listed (.text " +7") (.text "")) := by
    apply PayloadRecast.bare rfl
    refine .list rfl ?_
    intro f
    cases f with
    | vehicleId => exact hspelled
    | lat => exact hblanked
    | _ => exact .kept _
  let sample : Payload := { vehicleId := some 7, driverId := some 2 }
  have hread : Message.ofJson (listed (.int 7) .null) = .ok (.single sample) := rfl
  have hconverts := (Message.ofJson_eq_ok_iff hv.ordered).mp hread
  obtain ⟨reading, hreading⟩ : ∃ r, sample.reading = .ok r := ⟨_, rfl⟩
  have hstands : List.Forall₂ Stands [sample] [reading] :=
    .cons (Payload.reading_eq_ok_iff.mp hreading) .nil
  let batch : Batch := ⟨.fresh, [reading]⟩
  have hbatch := (@Batch.ofBytes_eq_ok_iff _ batch).mpr ⟨_, _, hv, hconverts, hstands, rfl⟩
  exact ⟨_, hbatch, ((leniency_is_transparent hv hv' hrecast).1 _).mp hbatch⟩

end FleetTrail.Telemetry
