import FleetTrail.Proofs.Service.Written

/-!
# What a new trip takes over

A field that the caller of a new trip leaves out is taken over from the primary offer. A location is
the token of the caller's point, and only when there is none, or the null point, the offer's text is
read; reading it is all that can fail.
-/

namespace FleetTrail.Trip

open Geo

section Fields

variable {α : Type}

/-- A field that is the caller's own where there is one, be it an empty text, and else the one that
the offer lends. -/
def Inherits (own lent field : Option α) : Prop :=
  (∀ a, own = some a → field = some a) ∧ (own = none → field = lent)

theorem inherits_iff {own lent field : Option α} :
    Inherits own lent field ↔ (own <|> lent) = field := by
  cases own <;> simp [Inherits, eq_comm]

end Fields

section Locations

/-- The caller gives no point, or the one that stands for none. -/
def Unset (own : Option Point) : Prop := ∀ p, own = some p → p.isNull = true

/-- What becomes of a location of a new trip. -/
inductive Located (own : Option Point) (lent : Option String) : Option String → Prop
  /-- The token of the caller's point, whatever the offer lends. -/
  | given {p : Point} {token : String} (hown : own = some p) (hreal : p.isNull = false)
      (htoken : p.token? = some token) : Located own lent (some token)
  /-- NULL when the offer lends nothing. -/
  | unknown (hunset : Unset own) (hlent : lent = none) : Located own lent none
  /-- NULL when the offer lends the null point. -/
  | nowhere {raw : String} {q : Point} (hunset : Unset own) (hlent : lent = some raw)
      (hread : Point.ofText raw = .ok q) (hnull : q.isNull = true) : Located own lent none
  /-- The token of the point that the offer lends, from which that point is read again. -/
  | inherited {raw token : String} {q : Point} (hunset : Unset own) (hlent : lent = some raw)
      (hread : Point.ofText raw = .ok q) (hreal : q.isNull = false)
      (htoken : q.token? = some token) (hagain : Point.ofText token = .ok q) :
      Located own lent (some token)

/-- The offer's text is needed for a location and is no point. -/
def Misread (own : Option Point) (lent : Option String) (e : PointError) : Prop :=
  Unset own ∧ ∃ raw, lent = some raw ∧ Point.ofText raw = .error e

variable {own : Option Point} {lent location : Option String}

theorem tokenOf_eq_none_iff : Point.tokenOf own = none ↔ Unset own := by
  cases own with
  | none => simp [Point.tokenOf, Unset]
  | some p => simp [Point.tokenOf, Unset, p.token?_eq_none]

theorem tokenOf_eq_some_iff {token : String} : Point.tokenOf own = some token ↔
    ∃ p, own = some p ∧ p.isNull = false ∧ p.token? = some token := by
  cases own with
  | none => simp [Point.tokenOf]
  | some p =>
    have hreal (h : p.token? = some token) : p.isNull = false := by
      rw [← Bool.not_eq_true, ← p.token?_eq_none, h]
      simp
    simpa [Point.tokenOf] using hreal

/-- Where the caller's point counts, the offer's text is not looked at. -/
theorem resolveLocation_given {token : String} (h : Point.tokenOf own = some token) :
    resolveLocation own lent = .ok (some token) := by
  rw [resolveLocation, h]

theorem resolveLocation_unset (h : Unset own) : resolveLocation own lent =
    ((Point.ofOptionalText lent).mapError Failure.decode).map Point.tokenOf := by
  rw [resolveLocation, tokenOf_eq_none_iff.mpr h, Service.locationOf_eq]
  rfl

theorem located_given {token : String} (h : Point.tokenOf own = some token) :
    Located own lent location ↔ some token = location := by
  obtain ⟨p, rfl, hreal, htoken⟩ := tokenOf_eq_some_iff.mp h
  have hset : ¬Unset (some p) := by simp [Unset, hreal]
  constructor
  · intro hlocated
    cases hlocated with
    | given hown _ htoken' => rw [← htoken, ← htoken', Option.some.inj hown]
    | unknown hunset | nowhere hunset | inherited hunset => exact absurd hunset hset
  · rintro rfl
    exact .given rfl hreal htoken

theorem located_unset (h : Unset own) : Located own lent location ↔
    ∃ q, Point.ofOptionalText lent = .ok q ∧ Point.tokenOf q = location := by
  constructor
  · intro hlocated
    cases hlocated with
    | given hown hreal =>
      rw [h _ hown] at hreal
      cases hreal
    | unknown _ hlent =>
      rw [hlent]
      exact ⟨none, rfl, rfl⟩
    | nowhere _ hlent hread hnull =>
      rw [hlent]
      exact ⟨_, Point.ofOptionalText_some_eq_ok_iff.mpr ⟨_, hread, rfl⟩,
        Point.token?_eq_none _ |>.mpr hnull⟩
    | inherited _ hlent hread _ htoken =>
      rw [hlent]
      exact ⟨_, Point.ofOptionalText_some_eq_ok_iff.mpr ⟨_, hread, rfl⟩, htoken⟩
  · rintro ⟨location, hread, rfl⟩
    cases lent with
    | none =>
      cases hread
      exact .unknown h rfl
    | some raw =>
      obtain ⟨q, hq, rfl⟩ := Point.ofOptionalText_some_eq_ok_iff.mp hread
      by_cases hnull : q.isNull = true
      · rw [tokenOf_eq_none_iff.mpr (by simpa [Unset] using hnull)]
        exact .nowhere h rfl hq hnull
      · have hreal := Bool.eq_false_of_not_eq_true hnull
        have htoken := q.token?_eq hreal
        have hagain := q.ofText_written htoken
        rw [if_pos (Point.onGlobe_of_ofText hq)] at hagain
        rw [Point.tokenOf, Option.bind_some, htoken]
        exact .inherited h rfl hq hreal htoken hagain

theorem resolveLocation_eq_ok_iff :
    resolveLocation own lent = .ok location ↔ Located own lent location := by
  cases htoken : Point.tokenOf own with
  | some token => rw [resolveLocation_given htoken, located_given htoken, Except.ok.injEq]
  | none =>
    have hunset := tokenOf_eq_none_iff.mp htoken
    rw [resolveLocation_unset hunset, located_unset hunset]
    cases Point.ofOptionalText lent <;> simp [Except.map, Except.mapError]

theorem resolveLocation_eq_error_iff {failure : Failure} :
    resolveLocation own lent = .error failure ↔
      ∃ e, failure = .decode e ∧ Misread own lent e := by
  cases htoken : Point.tokenOf own with
  | some token =>
    have hset : ¬Unset own := by simp [← tokenOf_eq_none_iff, htoken]
    simp [resolveLocation_given htoken, Misread, hset]
  | none =>
    have hunset := tokenOf_eq_none_iff.mp htoken
    rw [resolveLocation_unset hunset]
    cases lent with
    | none => simp [Point.ofOptionalText, Except.map, Except.mapError, Misread]
    | some raw =>
      cases hread : Point.ofText raw <;>
        simp [Point.ofOptionalText, Except.map, Except.mapError, Misread, hunset, hread, eq_comm]

theorem resolves_iff :
    (∃ location, resolveLocation own lent = .ok location) ↔ ∀ e, ¬Misread own lent e := by
  cases hresult : resolveLocation own lent with
  | ok location =>
    have hread (e : PointError) : ¬Misread own lent e := by
      intro he
      rw [resolveLocation_eq_error_iff.mpr ⟨e, rfl, he⟩] at hresult
      cases hresult
    simpa using hread
  | error failure =>
    obtain ⟨e, -, he⟩ := resolveLocation_eq_error_iff.mp hresult
    simpa using ⟨e, he⟩

end Locations

/-- The fields of a new trip: the caller's, and where they are left out the offer's. The distance
ends at zero and the free-form fields at an empty object. -/
structure Resolves (o : Opening) (primary : Offer.Defaults) (d : Draft) : Prop where
  driver : Inherits o.driverId primary.driverId d.driverId
  vehicle : Inherits o.vehicleId primary.vehicleId d.vehicleId
  fromAddress : Inherits o.fromAddress primary.fromAddress d.fromAddress
  toAddress : Inherits o.toAddress primary.toAddress d.toAddress
  fromCountry : Inherits o.fromCountry primary.fromCountry d.fromCountry
  toCountry : Inherits o.toCountry primary.toCountry d.toCountry
  origin : Located o.fromLocation primary.fromLocation d.fromLocation
  destination : Located o.toLocation primary.toLocation d.toLocation
  distance : ∃ known, Inherits o.distanceKm primary.distanceKm known ∧
    d.distanceKm = known.getD 0.0
  startDate : d.startDate = o.startDate
  metaFields : d.metaFields = o.metaFields.getD (.record [])

/-- A new trip takes each field from its caller, else from its offer; it fails exactly for an
offer's text that is needed and is no point, that of the origin first. -/
theorem draft_resolves_defaults (o : Opening) (primary : Offer.Defaults) :
    (∀ d, o.draft primary = .ok d ↔ Resolves o primary d) ∧
    ∀ failure, o.draft primary = .error failure ↔ ∃ e, failure = .decode e ∧
      (Misread o.fromLocation primary.fromLocation e ∨
        (∀ e', ¬Misread o.fromLocation primary.fromLocation e') ∧
          Misread o.toLocation primary.toLocation e) := by
  constructor
  · intro d
    simp only [Opening.draft, bind_eq_ok_iff, resolveLocation_eq_ok_iff, pure_eq_ok_iff]
    constructor
    · rintro ⟨origin, horigin, destination, hdestination, rfl⟩
      have hown {α : Type} (own lent : Option α) : Inherits own lent (own <|> lent) :=
        inherits_iff.mpr rfl
      exact ⟨hown _ _, hown _ _, hown _ _, hown _ _, hown _ _, hown _ _, horigin, hdestination,
        ⟨_, hown _ _, rfl⟩, rfl, rfl⟩
    · intro h
      obtain ⟨known, hknown, hdistance⟩ := h.distance
      refine ⟨_, h.origin, _, h.destination, ?_⟩
      rw [inherits_iff.mp h.driver, inherits_iff.mp h.vehicle, inherits_iff.mp h.fromAddress,
        inherits_iff.mp h.toAddress, inherits_iff.mp h.fromCountry, inherits_iff.mp h.toCountry,
        inherits_iff.mp hknown, ← hdistance, ← h.startDate, ← h.metaFields]
  · intro failure
    have hdraft : o.draft primary = .error failure ↔
        resolveLocation o.fromLocation primary.fromLocation = .error failure ∨
          (∃ origin, resolveLocation o.fromLocation primary.fromLocation = .ok origin) ∧
            resolveLocation o.toLocation primary.toLocation = .error failure := by
      simp only [Opening.draft, bind_eq_error_iff]
      simp [pure, Except.pure]
    rw [hdraft, resolves_iff, resolveLocation_eq_error_iff, resolveLocation_eq_error_iff]
    grind

end FleetTrail.Trip
