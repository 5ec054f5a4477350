import FleetTrail.Proofs.Geo.RoundTrip
import FleetTrail.Proofs.Result
import FleetTrail.Proofs.Service.Atomicity

/-!
# The points that are written

The texts of points that a committed run binds. A point of a caller is written as it comes, so it
can be read back exactly when it lies on the globe; a point that a trip inherits from its offer has
been read before it is written.
-/

namespace FleetTrail

namespace Store

def pointPlaces (sql : String) : List Nat :=
  if sql = Sql.insertTelemetry then [9] else if sql = Sql.insertTrip then [7, 8] else []

def Bound.text? : Bound → Option String
  | .text s => s
  | _ => none

/-- The texts of points that a statement writes; NULL is none. -/
def Statement.points (statement : Statement) : List String :=
  (pointPlaces statement.sql).filterMap fun place => statement.args[place]?.bind Bound.text?

def Request.points : Request → List String
  | .data statement => statement.points
  | .begin | .commit | .rollback => []

/-- The texts of points that are written in the course of exchanges. -/
def written (exchanges : List Exchange) : List String := exchanges.flatMap (·.request.points)

@[simp] theorem written_cons (x : Exchange) (later : List Exchange) :
    written (x :: later) = x.request.points ++ written later := List.flatMap_cons

@[simp] theorem written_append (before later : List Exchange) :
    written (before ++ later) = written before ++ written later := List.flatMap_append

end Store

open Store Geo

def Readable (texts : List String) : Prop := ∀ text ∈ texts, ∃ p, Point.ofText text = .ok p

theorem readable_tokens {points : List Point} :
    Readable (points.filterMap (·.token?)) ↔ ∀ p ∈ points, p.OnGlobe := by
  refine ⟨fun h p hp => ?_, fun h text htext => ?_⟩
  · cases htoken : p.token? with
    | none => exact p.onGlobe_of_isNull (p.token?_eq_none.mp htoken)
    | some text =>
      obtain ⟨q, hq⟩ := h text (List.mem_filterMap.mpr ⟨p, hp, htoken⟩)
      by_contra hout
      rw [p.ofText_written htoken, if_neg hout] at hq
      cases hq
  · obtain ⟨p, hp, htoken⟩ := List.mem_filterMap.mp htext
    exact ⟨p, (p.ofText_written htoken).trans (if_pos (h p hp))⟩

theorem readable_locations {origin destination : Option Point} :
    Readable ([origin, destination].filterMap Point.tokenOf) ↔
      (∀ p ∈ origin, p.OnGlobe) ∧ ∀ p ∈ destination, p.OnGlobe := by
  have htokens : [origin, destination].filterMap Point.tokenOf =
      (origin.toList ++ destination.toList).filterMap (·.token?) := by
    cases origin <;> cases destination <;> rfl
  rw [htokens, readable_tokens]
  simp only [List.mem_append, Option.mem_toList, Option.mem_def, or_imp, forall_and]

namespace Service

open Trip Telemetry

theorem points_reading (r : Reading) :
    (Request.data ⟨Sql.insertTelemetry, readingArgs r⟩).points = r.coordinates.token?.toList := by
  cases h : r.coordinates.token? <;>
    simp [Request.points, Statement.points, pointPlaces, readingArgs, Bound.text?, h]

theorem points_draft (d : Draft) :
    (Request.data ⟨Sql.insertTrip, tripArgs d⟩).points =
      d.fromLocation.toList ++ d.toLocation.toList := by
  have hsql : Sql.insertTrip ≠ Sql.insertTelemetry := by decide +kernel
  cases hfrom : d.fromLocation <;> cases hto : d.toLocation <;>
    simp [Request.points, Statement.points, pointPlaces, tripArgs, Bound.text?, hsql, hfrom, hto]

theorem written_ingestPlan {phase : Option Phase} {index : Nat} {readings : List Reading}
    {body : List Exchange} (h : Carried phase (ingestPlan index readings) body (.ok ())) :
    written body = (readings.map (·.coordinates)).filterMap (·.token?) := by
  induction readings generalizing phase index body with
  | nil =>
    cases h
    rfl
  | cons r rest ih =>
    obtain ⟨reply, later, rfl, hcarried⟩ := h.of_step_ok
    obtain ⟨_, -, hrest⟩ := hcarried.of_require_ok
    rw [written_cons, ih hrest, points_reading, List.map_cons, List.filterMap_cons]
    cases r.coordinates.token? <;> rfl

theorem written_linkPlan {phase : Option Phase} {trip a : Int64} {links : List OfferChoice}
    {body : List Exchange} (h : Carried phase (linkPlan trip links) body (.ok a)) :
    written body = [] := by
  have htelemetry : Sql.insertTripOffer ≠ Sql.insertTelemetry := by decide +kernel
  have htrip : Sql.insertTripOffer ≠ Sql.insertTrip := by decide +kernel
  induction links generalizing phase body with
  | nil =>
    cases h
    rfl
  | cons link rest ih =>
    obtain ⟨reply, later, rfl, hrest⟩ := h.of_step_ok
    rw [written_cons, ih hrest]
    simp [Request.points, Statement.points, pointPlaces, linkStatement, htelemetry, htrip]

/-- Where the point of a new trip comes from: from the caller, unless it is absent or null, and else
from the text of the offer, which must decode. -/
inductive Supplied (explicit : Option Point) (fallback : Option String) : Option Point → Prop
  | explicit {p : Point} (given : explicit = some p) (real : p.isNull = false) :
      Supplied explicit fallback (some p)
  | inherited {location : Option Point} (unset : Point.tokenOf explicit = none)
      (read : Point.ofOptionalText fallback = .ok location) : Supplied explicit fallback location

theorem locationOf_eq (raw : Option String) :
    locationOf raw = (Point.ofOptionalText raw).mapError Failure.decode := by
  rw [locationOf]
  cases Point.ofOptionalText raw <;> rfl

theorem read_of_locationOf {raw : Option String} {location : Option Point}
    (h : locationOf raw = .ok location) : Point.ofOptionalText raw = .ok location := by
  rwa [locationOf_eq, mapError_eq_ok_iff] at h

theorem read_of_locationOf_error {raw : Option String} {e : PointError}
    (h : locationOf raw = .error (.decode e)) : Point.ofOptionalText raw = .error e := by
  rw [locationOf_eq] at h
  obtain ⟨_, hread, ⟨⟩⟩ := mapError_eq_error_iff.mp h
  exact hread

theorem supplied_of_resolve {explicit : Option Point} {fallback token : Option String}
    (h : resolveLocation explicit fallback = .ok token) :
    ∃ location, Supplied explicit fallback location ∧ token = Point.tokenOf location := by
  rw [resolveLocation] at h
  split at h
  · rename_i text htext
    cases h
    obtain ⟨p, rfl, hp⟩ := Option.bind_eq_some_iff.mp htext
    refine ⟨some p, .explicit rfl ?_, htext.symm⟩
    rw [← Bool.not_eq_true, ← p.token?_eq_none, hp]
    exact Option.some_ne_none text
  · rename_i hunset
    obtain ⟨location, hlocation, htoken⟩ := bind_eq_ok_iff.mp h
    cases htoken
    exact ⟨location, .inherited hunset (read_of_locationOf hlocation), rfl⟩

/-- An inherited point lies on the globe, and so does a null point, whoever gives it. -/
theorem Supplied.onGlobe_iff {explicit location : Option Point} {fallback : Option String}
    (h : Supplied explicit fallback location) :
    (∀ p ∈ location, p.OnGlobe) ↔ ∀ p ∈ explicit, p.OnGlobe := by
  cases h with
  | explicit given real => rw [given]
  | inherited unset read =>
    refine iff_of_true (fun p hp => ?_) fun p hp => ?_
    · rw [Option.mem_def] at hp
      subst hp
      cases fallback with
      | none => cases read
      | some raw =>
        obtain ⟨q, hraw, ⟨⟩⟩ := Point.ofOptionalText_some_eq_ok_iff.mp read
        exact Point.onGlobe_of_ofText hraw
    · rw [Option.mem_def] at hp
      subst hp
      exact p.onGlobe_of_isNull (p.token?_eq_none.mp unset)

theorem written_openPlan {o : Opening} {links : Links} {phase : Option Phase} {trip : Int64}
    {body : List Exchange} (h : Carried phase (openPlan o links) body (.ok trip)) :
    ∃ reply primary origin destination,
      ⟨.data ⟨Sql.selectOfferDefaults, [.int (some links.primary.offerId)]⟩, .ok reply⟩ ∈ body ∧
      primaryOf links.primary.offerId reply = .ok primary ∧
      Supplied o.fromLocation primary.fromLocation origin ∧
      Supplied o.toLocation primary.toLocation destination ∧
      written body = [origin, destination].filterMap Point.tokenOf := by
  have htelemetry : Sql.selectOfferDefaults ≠ Sql.insertTelemetry := by decide +kernel
  have htrip : Sql.selectOfferDefaults ≠ Sql.insertTrip := by decide +kernel
  obtain ⟨reply, later, rfl, hprimary⟩ := h.of_step_ok
  obtain ⟨primary, hlent, hdraft⟩ := hprimary.of_require_ok
  obtain ⟨draft, hdrawn, hinsert⟩ := hdraft.of_require_ok
  obtain ⟨_, links, rfl, hid⟩ := hinsert.of_step_ok
  obtain ⟨_, -, hlinks⟩ := hid.of_require_ok
  obtain ⟨fromLocation, hfrom, hrest⟩ := bind_eq_ok_iff.mp hdrawn
  obtain ⟨toLocation, hto, hdrawn⟩ := bind_eq_ok_iff.mp hrest
  obtain ⟨origin, horigin, rfl⟩ := supplied_of_resolve hfrom
  obtain ⟨destination, hdestination, rfl⟩ := supplied_of_resolve hto
  cases hdrawn
  refine ⟨reply, primary, origin, destination, List.mem_cons_self, hlent, horigin, hdestination, ?_⟩
  rw [written_cons, written_cons, points_draft, written_linkPlan hlinks]
  cases horigin : Point.tokenOf origin <;> cases hdestination : Point.tokenOf destination <;>
    simp [Request.points, Statement.points, pointPlaces, htelemetry, htrip, horigin, hdestination]

section Runs

variable {σ : Type} (store : Responder σ) (s : σ)

theorem written_commit {body : List Exchange} {begun done : Reply} :
    written (⟨.begin, .ok begun⟩ :: body ++ [⟨.commit, .ok done⟩]) = written body := by
  rw [written_append, written_cons]
  exact List.append_nil _

theorem written_ingest {readings : List Reading} {n : Nat}
    (h : ((ingest readings).run.run store s).value = .ok n) :
    written ((ingest readings).run.run store s).exchanges =
      (readings.map (·.coordinates)).filterMap (·.token?) := by
  by_cases hempty : readings = []
  · subst hempty
    rfl
  · have hunit := ingest_atomic store hempty s
    rw [h] at hunit
    obtain ⟨_, body, _, _, hexchanges, hcarried⟩ := hunit.of_ok
    rw [hexchanges, written_commit, written_ingestPlan hcarried]

theorem written_startTrip {o : Opening} {trip : Int64}
    (h : ((startTrip o).run.run store s).value = .ok trip) :
    ∃ offer reply primary origin destination,
      ⟨.data ⟨Sql.selectOfferDefaults, [.int (some offer)]⟩, .ok reply⟩ ∈
        ((startTrip o).run.run store s).exchanges ∧
      primaryOf offer reply = .ok primary ∧
      Supplied o.fromLocation primary.fromLocation origin ∧
      Supplied o.toLocation primary.toLocation destination ∧
      written ((startTrip o).run.run store s).exchanges =
        [origin, destination].filterMap Point.tokenOf := by
  cases hlinks : Links.ofChoices o.offers with
  | error failure =>
    rw [startTrip, hlinks] at h
    cases h
  | ok links =>
    have hunit := startTrip_atomic store hlinks s
    rw [h] at hunit
    obtain ⟨_, body, _, _, hexchanges, hcarried⟩ := hunit.of_ok
    obtain ⟨reply, primary, origin, destination, hmem, hlent, horigin, hdestination, hwritten⟩ :=
      written_openPlan hcarried
    refine ⟨links.primary.offerId, reply, primary, origin, destination, ?_, hlent, horigin,
      hdestination, ?_⟩
    · rw [hexchanges]
      exact List.mem_append_left _ (List.mem_cons_of_mem _ hmem)
    · rw [hexchanges, written_commit, hwritten]

end Runs

end Service

end FleetTrail
