import FleetTrail.Proofs.Result
import FleetTrail.Proofs.Service.Answers
import FleetTrail.Proofs.Service.Atomicity
import FleetTrail.Proofs.Service.Written
import FleetTrail.Proofs.Store.Bound
import FleetTrail.Proofs.Telemetry.Rows

/-!
# When a trip starts

A trip is started from the offers that it is to fulfil. The first of them lends it what the caller
left open, and each of them is linked to it once, in the order in which they were given, exactly one
link being the main one. `Opens` says which answers a start takes.
-/

namespace FleetTrail.Service

open Store Trip

/-- The place of the main offer: the one that is flagged, or the first when none is. -/
inductive MainAt (offers : List OfferChoice) (main : Nat) : Prop
  | flagged (listed : main < offers.length)
      (only : ∀ i offer, offers[i]? = some offer → (offer.isMain = true ↔ i = main)) :
      MainAt offers main
  | promoted (first : main = 0) (listed : offers ≠ []) (none : ∀ offer ∈ offers,
      offer.isMain = false) : MainAt offers main

def lookupStatement (offer : Int64) : Statement := ⟨Sql.selectOfferDefaults, [.int (some offer)]⟩

/-- The cells of a row hold what an offer lends to a trip. -/
@[mk_iff]
structure Lends (row : Row) (primary : Offer.Defaults) : Prop where
  id : row.cell "id" = .int primary.id
  driverId : row.cell "driver_id" = .ofOption .int primary.driverId
  vehicleId : row.cell "vehicle_id" = .ofOption .int primary.vehicleId
  fromAddress : row.cell "from_address" = .ofOption .text primary.fromAddress
  toAddress : row.cell "to_address" = .ofOption .text primary.toAddress
  fromCountry : row.cell "from_country" = .ofOption .text primary.fromCountry
  toCountry : row.cell "to_country" = .ofOption .text primary.toCountry
  fromLocation : row.cell "from_location" = .ofOption .text primary.fromLocation
  toLocation : row.cell "to_location" = .ofOption .text primary.toLocation
  distanceKm : row.cell "distance_km" = .ofOption .float primary.distanceKm

/-- A trip is inserted with all of its fields; of its start it has what the store keeps. -/
def Inserts (draft : Draft) (statement : Statement) : Prop :=
  ∃ start, Option.Rel Time.Instant.KeptAs draft.startDate start ∧
    statement = ⟨Sql.insertTrip,
      [.int draft.driverId, .int draft.vehicleId, .text draft.fromAddress, .text draft.toAddress,
        .text draft.fromCountry, .text draft.toCountry, .time start, .text draft.fromLocation,
        .text draft.toLocation, .float (some draft.distanceKm), .json draft.metaFields]⟩

def linkRequests (trip : Int64) (main : Nat) (offers : List OfferChoice) : List Request :=
  offers.mapIdx fun i offer => .data ⟨Sql.insertTripOffer,
    [.int (some trip), .int (some offer.offerId), .bool (i == main),
      .text (some (offer.status.getD "active"))]⟩

/-- Each request was asked in its turn and answered without an error. -/
def Granted : List Request → List Exchange → Prop :=
  List.Forall₂ fun request x => ∃ reply, x = ⟨request, .ok reply⟩

/-- The answers that start a trip: the defaults of the first offer, the insertion of the trip with
what they leave of the caller's input, and the insertion of each link. -/
def Opens (o : Opening) (trip : Int64) (exchanges : List Exchange) : Prop :=
  ∃ first others main loaded primary draft insertion inserted links,
    o.offers = first :: others ∧ MainAt o.offers main ∧
    exchanges = ⟨.data (lookupStatement first.offerId), .ok loaded⟩ ::
      ⟨.data insertion, .ok inserted⟩ :: links ∧
    (∃ row rest, loaded.rows = row :: rest ∧ Lends row primary) ∧
    o.draft primary = .ok draft ∧ Inserts draft insertion ∧
    (∃ row rest, inserted.rows = row :: rest ∧ row.cell "id" = .int trip) ∧
    Granted (linkRequests trip main o.offers) links

section Main

variable {offers : List OfferChoice} {main main' : Nat}

theorem MainAt.unique (h : MainAt offers main) (h' : MainAt offers main') : main = main' := by
  cases h with
  | flagged listed only =>
    have hflagged : offers[main].isMain = true :=
      (only main offers[main] (List.getElem?_eq_getElem listed)).mpr rfl
    cases h' with
    | flagged listed' only' =>
      exact (only' main offers[main] (List.getElem?_eq_getElem listed)).mp hflagged
    | promoted first' listed' none' =>
      rw [none' _ (List.getElem_mem listed)] at hflagged
      cases hflagged
  | promoted first listed none =>
    cases h' with
    | flagged listed' only' =>
      have hflagged : offers[main'].isMain = true :=
        (only' main' offers[main'] (List.getElem?_eq_getElem listed')).mpr rfl
      rw [none _ (List.getElem_mem listed')] at hflagged
      cases hflagged
    | promoted first' listed' none' => rw [first, first']

private theorem exists_only_main (h : offers.countP (·.isMain) = 1) :
    ∃ main < offers.length,
      ∀ i offer, offers[i]? = some offer → (offer.isMain = true ↔ i = main) := by
  induction offers with
  | nil => simp at h
  | cons first others ih =>
    by_cases hfirst : first.isMain = true
    · have hothers : ∀ offer ∈ others, ¬offer.isMain = true := by
        simpa [List.countP_cons, hfirst, List.countP_eq_zero] using h
      refine ⟨0, by simp, ?_⟩
      intro i offer hoffer
      cases i with
      | zero =>
        cases hoffer
        simp [hfirst]
      | succ i =>
        have hmem : offer ∈ others := List.mem_of_getElem? hoffer
        simp [hothers offer hmem]
    · obtain ⟨main, hmain, honly⟩ := ih (by simpa [List.countP_cons, hfirst] using h)
      refine ⟨main + 1, by simpa using hmain, ?_⟩
      intro i offer hoffer
      cases i with
      | zero =>
        cases hoffer
        simp [hfirst]
      | succ i => simpa using honly i offer hoffer

private theorem mapIdx_main {place : Nat → Bool}
    (h : ∀ i offer, offers[i]? = some offer → offer.isMain = place i) :
    (offers.mapIdx fun i offer => { offer with isMain := place i }) = offers := by
  apply List.ext_getElem?
  intro i
  rw [List.getElem?_mapIdx]
  cases hoffer : offers[i]? with
  | none => rfl
  | some offer => rw [Option.map_some, ← h i offer hoffer]

/-- A list of offers that is not refused settles on its main link and keeps all else as it was. -/
theorem ofChoices_main (h : ¬Refused offers) :
    ∃ first others main links, offers = first :: others ∧ MainAt offers main ∧
      Links.ofChoices offers = .ok links ∧ links.primary.offerId = first.offerId ∧
      links.toList = offers.mapIdx fun i offer => { offer with isMain := i == main } := by
  obtain ⟨hnil, hseveral⟩ := not_or.mp h
  cases offers with
  | nil => exact absurd rfl hnil
  | cons first others =>
    by_cases hnone : (first :: others).countP (·.isMain) = 0
    · have hunflagged : ∀ offer ∈ first :: others, offer.isMain = false := by
        simpa [List.countP_eq_zero] using hnone
      refine ⟨first, others, 0, ⟨{ first with isMain := true }, others⟩, rfl,
        .promoted rfl (List.cons_ne_nil first others) hunflagged, ?_, rfl, ?_⟩
      · simp only [Links.ofChoices, if_neg hseveral, if_pos hnone]
      · have hothers : (others.mapIdx fun i offer => { offer with isMain := i + 1 == 0 }) =
            others := by
          apply mapIdx_main
          intro i offer hoffer
          exact hunflagged offer (List.mem_cons_of_mem first (List.mem_of_getElem? hoffer))
        rw [List.mapIdx_cons, hothers]
        rfl
    · have hone : (first :: others).countP (·.isMain) = 1 := by omega
      obtain ⟨main, hmain, honly⟩ := exists_only_main hone
      refine ⟨first, others, main, ⟨first, others⟩, rfl, .flagged hmain honly, ?_, rfl, ?_⟩
      · simp only [Links.ofChoices, if_neg hseveral, if_neg hnone]
      · symm
        apply mapIdx_main
        intro i offer hoffer
        rw [Bool.eq_iff_iff, honly i offer hoffer, beq_iff_eq]

end Main

section Plan

variable {phase : Option Phase} {body : List Exchange} {failure : Failure}

theorem carried_linkPlan_ok_iff {trip a : Int64} {links : List OfferChoice} :
    Carried phase (linkPlan trip links) body (.ok a) ↔
      a = trip ∧ Granted (links.map fun link => .data (linkStatement trip link)) body := by
  induction links generalizing phase body with
  | nil =>
    rw [List.map_nil, Granted, List.forall₂_nil_left_iff]
    constructor
    · intro h
      cases h
      exact ⟨rfl, rfl⟩
    · intro h
      obtain ⟨rfl, rfl⟩ := h
      exact .finished a
  | cons link rest ih =>
    rw [List.map_cons, Granted, List.forall₂_cons_left_iff]
    constructor
    · intro h
      obtain ⟨reply, later, rfl, hrest⟩ := h.of_step_ok
      obtain ⟨hid, hgranted⟩ := ih.mp hrest
      exact ⟨hid, _, later, ⟨reply, rfl⟩, hgranted, rfl⟩
    · intro h
      obtain ⟨hid, _, later, ⟨reply, rfl⟩, hgranted, rfl⟩ := h
      exact .answered (ih.mpr ⟨hid, hgranted⟩)

theorem carried_linkPlan_error {trip : Int64} {links : List OfferChoice}
    (h : Carried phase (linkPlan trip links) body (.error failure)) :
    ∃ name e, failure = .transaction name e := by
  induction links generalizing phase body with
  | nil => cases h
  | cons link rest ih =>
    obtain ⟨e, -, rfl⟩ | ⟨reply, later, -, hrest⟩ := carried_step_error_iff.mp h
    · exact ⟨_, e, rfl⟩
    · exact ih hrest

theorem ofRow_eq_ok_iff {row : Row} {primary : Offer.Defaults} :
    Offer.Defaults.ofRow row = .ok primary ↔ Lends row primary := by
  rw [lends_iff]
  simp only [Offer.Defaults.ofRow, bind_eq_ok_iff, pure_eq_ok_iff,
    Row.value_eq_ok_iff Cell.reads_int, Row.optional_eq_ok_iff Cell.reads_int,
    Row.optional_eq_ok_iff Cell.reads_text, Row.optional_eq_ok_iff Cell.reads_float]
  cases primary
  aesop

theorem inserts_iff {draft : Draft} {statement : Statement} :
    Inserts draft statement ↔ statement = ⟨Sql.insertTrip, tripArgs draft⟩ := by
  simp only [Inserts, Time.Instant.rel_keptAs_iff, exists_eq_left, tripArgs, Bound.ofInstant]

theorem primaryOf_eq_ok_iff {offer : Int64} {reply : Reply} {primary : Offer.Defaults} :
    primaryOf offer reply = .ok primary ↔
      ∃ row rest, reply.rows = row :: rest ∧ Lends row primary := by
  rw [primaryOf]
  cases reply.rows with
  | nil => simp
  | cons row rest => simp [mapError_eq_ok_iff, ofRow_eq_ok_iff]

theorem tripIdOf_eq_ok_iff {reply : Reply} {trip : Int64} :
    tripIdOf reply = .ok trip ↔
      ∃ row rest, reply.rows = row :: rest ∧ row.cell "id" = .int trip := by
  rw [tripIdOf]
  cases reply.rows with
  | nil => simp
  | cons row rest =>
    simp [mapError_eq_ok_iff, Row.id, Row.valueAs_eq_ok_iff Cell.reads_int]

private theorem resolveLocation_error {explicit : Option Geo.Point} {fallback : Option String}
    (h : resolveLocation explicit fallback = .error failure) : ∃ e, failure = .decode e := by
  rw [resolveLocation] at h
  split at h
  next => cases h
  next =>
    rw [locationOf_eq] at h
    obtain herror | ⟨_, _, ⟨⟩⟩ := bind_eq_error_iff.mp h
    obtain ⟨e, -, rfl⟩ := mapError_eq_error_iff.mp herror
    exact ⟨e, rfl⟩

theorem draft_error {o : Opening} {primary : Offer.Defaults} (h : o.draft primary = .error failure) :
    ∃ e, failure = .decode e := by
  obtain hfrom | ⟨_, -, hrest⟩ := bind_eq_error_iff.mp h
  · exact resolveLocation_error hfrom
  · obtain hto | ⟨_, -, ⟨⟩⟩ := bind_eq_error_iff.mp hrest
    exact resolveLocation_error hto

theorem carried_openPlan_error {o : Opening} {links : Links}
    (h : Carried none (openPlan o links) body (.error failure)) :
    (∃ loaded, body = [⟨.data (lookupStatement links.primary.offerId), .ok loaded⟩] ∧
        loaded.rows = [] ∧ failure = .offerNotFound links.primary.offerId) ∨
      (∃ e, failure = .decode e) ∨ ∃ name e, failure = .transaction name e := by
  obtain ⟨e, -, rfl⟩ | ⟨loaded, _, rfl, hloaded⟩ := carried_step_error_iff.mp h
  · exact .inr (.inr ⟨_, e, rfl⟩)
  obtain ⟨rfl, hprimary, -⟩ | ⟨primary, -, hdraft⟩ := carried_require_error_iff.mp hloaded
  · rw [primaryOf] at hprimary
    cases hrows : loaded.rows with
    | nil =>
      rw [hrows] at hprimary
      cases hprimary
      exact .inl ⟨loaded, rfl, hrows, rfl⟩
    | cons row rest =>
      rw [hrows] at hprimary
      obtain ⟨e, -, rfl⟩ := mapError_eq_error_iff.mp hprimary
      exact .inr (.inr ⟨_, e, rfl⟩)
  obtain ⟨-, hdrawn, -⟩ | ⟨draft, -, hinsert⟩ := carried_require_error_iff.mp hdraft
  · exact .inr (.inl (draft_error hdrawn))
  obtain ⟨e, -, rfl⟩ | ⟨inserted, _, -, hinserted⟩ := carried_step_error_iff.mp hinsert
  · exact .inr (.inr ⟨_, e, rfl⟩)
  obtain ⟨-, hid, -⟩ | ⟨trip, -, hlinks⟩ := carried_require_error_iff.mp hinserted
  · rw [tripIdOf] at hid
    split at hid
    next =>
      cases hid
      exact .inr (.inr ⟨_, _, rfl⟩)
    next =>
      obtain ⟨e, -, rfl⟩ := mapError_eq_error_iff.mp hid
      exact .inr (.inr ⟨_, e, rfl⟩)
  · exact .inr (.inr (carried_linkPlan_error hlinks))

/-- Whatever comes of it, the body of a start first looks up the first offer, and goes no further
when that one is missing. -/
theorem carried_openPlan_lookup {o : Opening} {links : Links} {result : Except Failure Int64}
    (h : Carried none (openPlan o links) body result) :
    ∃ answer later, body = ⟨.data (lookupStatement links.primary.offerId), answer⟩ :: later ∧
      ∀ loaded, answer = .ok loaded → loaded.rows = [] →
        result = .error (.offerNotFound links.primary.offerId) := by
  cases h with
  | refused e => exact ⟨_, _, rfl, nofun⟩
  | answered rest =>
    refine ⟨_, _, rfl, ?_⟩
    rintro _ ⟨⟩ hrows
    simp only [primaryOf, hrows] at rest
    cases rest
    rfl

theorem carried_openPlan_ok_iff {o : Opening} {first : OfferChoice} {others : List OfferChoice}
    {main : Nat} {links : Links} {trip : Int64} (hoffers : o.offers = first :: others)
    (hmain : MainAt o.offers main) (hprimary : links.primary.offerId = first.offerId)
    (hlinks : links.toList = o.offers.mapIdx fun i offer => { offer with isMain := i == main }) :
    Carried none (openPlan o links) body (.ok trip) ↔ Opens o trip body := by
  have hrequests (a : Int64) : (links.toList.map fun link => .data (linkStatement a link)) =
      linkRequests a main o.offers := by
    rw [hlinks]
    apply List.ext_getElem?
    intro i
    simp only [linkRequests, linkStatement, defaultLinkStatus, List.getElem?_map,
      List.getElem?_mapIdx, Option.map_map, Function.comp_def]
  constructor
  · intro h
    obtain ⟨loaded, _, rfl, hloaded⟩ := h.of_step_ok
    obtain ⟨primary, hlent, hdraft⟩ := hloaded.of_require_ok
    obtain ⟨draft, hdrawn, hinsert⟩ := hdraft.of_require_ok
    obtain ⟨inserted, linked, rfl, hinserted⟩ := hinsert.of_step_ok
    obtain ⟨a, hid, hlinked⟩ := hinserted.of_require_ok
    obtain ⟨rfl, hgranted⟩ := carried_linkPlan_ok_iff.mp hlinked
    rw [hrequests] at hgranted
    rw [hprimary] at *
    exact ⟨first, others, main, loaded, primary, draft, _, inserted, linked, hoffers, hmain, rfl,
      primaryOf_eq_ok_iff.mp hlent, hdrawn, inserts_iff.mpr rfl, tripIdOf_eq_ok_iff.mp hid, hgranted⟩
  · intro h
    obtain ⟨first', others', main', loaded, primary, draft, insertion, inserted, linked, hoffers',
      hmain', rfl, hlent, hdrawn, hinserts, hid, hgranted⟩ := h
    obtain rfl := inserts_iff.mp hinserts
    obtain ⟨rfl, rfl⟩ := List.cons.inj (hoffers.symm.trans hoffers')
    obtain rfl := hmain.unique hmain'
    rw [← hrequests] at hgranted
    rw [← hprimary]
    refine .answered (.require_ok (primaryOf_eq_ok_iff.mpr hlent) (.require_ok hdrawn ?_))
    refine .answered (.require_ok (tripIdOf_eq_ok_iff.mpr hid) ?_)
    exact carried_linkPlan_ok_iff.mpr ⟨rfl, hgranted⟩

end Plan

section Call

variable {o : Opening} {links : Links} {exchanges : List Exchange}

theorem startTrip_failure {value : Except Failure Int64} {failure : Failure}
    (h : Atomic (openPlan o links) id exchanges value) (hvalue : value = .error failure) :
    (failure = .offerNotFound links.primary.offerId ∧ ∃ begun loaded later, loaded.rows = [] ∧
        exchanges = ⟨.begin, .ok begun⟩ ::
          ⟨.data (lookupStatement links.primary.offerId), .ok loaded⟩ :: later) ∨
      (∃ e, failure = .decode e) ∨ ∃ name e, failure = .transaction name e := by
  subst hvalue
  cases h with
  | unbegun e => exact .inr (.inr ⟨_, e, rfl⟩)
  | uncommitted e carried => exact .inr (.inr ⟨_, e, rfl⟩)
  | rolledBack answer carried =>
    obtain ⟨loaded, rfl, hrows, rfl⟩ | hother := carried_openPlan_error carried
    · exact .inl ⟨rfl, _, loaded, _, hrows, rfl⟩
    · exact .inr hother

theorem startTrip_lookup {value : Except Failure Int64}
    (h : Atomic (openPlan o links) id exchanges value) :
    (∃ e, exchanges = [⟨.begin, .error e⟩]) ∨ ∃ begun answer later,
      exchanges = ⟨.begin, .ok begun⟩ ::
        ⟨.data (lookupStatement links.primary.offerId), answer⟩ :: later ∧
      ∀ loaded, answer = .ok loaded → loaded.rows = [] →
        value = .error (.offerNotFound links.primary.offerId) := by
  obtain ⟨e, rfl, -⟩ | ⟨begun, body, result, settled, hcarried, rfl, rfl⟩ := atomic_iff.mp h
  · exact .inl ⟨e, rfl⟩
  · obtain ⟨answer, later, rfl, hmissing⟩ := carried_openPlan_lookup hcarried
    refine .inr ⟨begun, answer, _, rfl, ?_⟩
    intro loaded hanswer hrows
    rw [hmissing loaded hanswer hrows]
    rfl

end Call

/-- A start is rejected before anything is asked exactly when it lists no offer or flags several as
main. Any other looks up the first offer, whichever is main, and says so when that one is missing.
It gives an id exactly when it has committed the answers that start a trip of that id. -/
theorem startTrip_links_each_offer_once {σ : Type} (store : Responder σ) (s : σ) (o : Opening) :
    let run := (startTrip o).run.run store s
    ((∃ reason, run.value = .error (.validation reason)) ↔ Refused o.offers) ∧
    (Refused o.offers → run.exchanges = []) ∧
    (¬Refused o.offers → ∃ first others, o.offers = first :: others ∧
      ((∃ e, run.exchanges = [⟨.begin, .error e⟩]) ∨ ∃ begun answer later, run.exchanges =
        ⟨.begin, .ok begun⟩ :: ⟨.data (lookupStatement first.offerId), answer⟩ :: later) ∧
      ∀ offer, run.value = .error (.offerNotFound offer) ↔ offer = first.offerId ∧
        ∃ begun loaded later, loaded.rows = [] ∧ run.exchanges =
          ⟨.begin, .ok begun⟩ :: ⟨.data (lookupStatement first.offerId), .ok loaded⟩ :: later) ∧
    ∀ trip, run.value = .ok trip ↔ ∃ begun body done, Opens o trip body ∧
      run.exchanges = ⟨.begin, .ok begun⟩ :: body ++ [⟨.commit, .ok done⟩] := by
  intro run
  by_cases hrefused : Refused o.offers
  · obtain ⟨hexchanges, reason, hvalue⟩ := startTrip_refused store hrefused s
    refine ⟨iff_of_true ⟨reason, hvalue⟩ hrefused, fun _ => hexchanges, absurd hrefused, ?_⟩
    intro trip
    apply iff_of_false
    · rw [hvalue]
      nofun
    · rintro ⟨begun, body, done, -, hbody⟩
      rw [hexchanges] at hbody
      cases hbody
  · obtain ⟨first, others, main, links, hoffers, hmain, hlinks, hprimary, hlist⟩ :=
      ofChoices_main hrefused
    have hunit : Atomic (openPlan o links) id run.exchanges run.value :=
      startTrip_atomic store hlinks s
    have hgives : store.Gives s run.exchanges := (startTrip o).run.gives_run store s
    refine ⟨?_, fun h => absurd h hrefused, ?_, ?_⟩
    · refine iff_of_false ?_ hrefused
      rintro ⟨reason, hvalue⟩
      obtain ⟨⟨⟩, -⟩ | ⟨_, ⟨⟩⟩ | ⟨_, _, ⟨⟩⟩ := startTrip_failure hunit hvalue
    · intro _
      have hlookup := startTrip_lookup hunit
      rw [hprimary] at hlookup
      refine ⟨first, others, hoffers, ?_, ?_⟩
      · obtain hunbegun | ⟨begun, answer, later, hexchanges, -⟩ := hlookup
        · exact .inl hunbegun
        · exact .inr ⟨begun, answer, later, hexchanges⟩
      · intro offer
        constructor
        · intro hvalue
          obtain ⟨hoffer, hmissing⟩ | ⟨_, ⟨⟩⟩ | ⟨_, _, ⟨⟩⟩ := startTrip_failure hunit hvalue
          rw [hprimary] at hoffer hmissing
          exact ⟨Failure.offerNotFound.inj hoffer, hmissing⟩
        · rintro ⟨rfl, begun, loaded, later, hrows, hexchanges⟩
          obtain ⟨e, hunbegun⟩ | ⟨_, answer, _, hlooked, hmissing⟩ := hlookup
          · rw [hexchanges] at hunbegun
            cases hunbegun
          · rw [hexchanges] at hlooked
            cases hlooked
            exact hmissing loaded rfl hrows
    · intro trip
      have hopens {body : List Exchange} : Carried none (openPlan o links) body (.ok trip) ↔
          Opens o trip body := carried_openPlan_ok_iff hoffers hmain hprimary hlist
      constructor
      · intro hvalue
        obtain ⟨begun, body, done, a, rfl, hcarried, hcommit⟩ := (hunit.ok_iff hgives).mp hvalue
        refine ⟨begun, body, done, hopens.mp hcarried, ?_⟩
        exact (hunit.same (.committed hcarried) hgives hcommit).1
      · rintro ⟨begun, body, done, hbody, hexchanges⟩
        rw [hexchanges] at hgives
        rw [hunit.ok_iff ((startTrip o).run.gives_run store s)]
        exact ⟨begun, body, done, trip, rfl, hopens.mpr hbody, hgives⟩

end FleetTrail.Service
