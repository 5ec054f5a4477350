import FleetTrail.Proofs.Query.Paging
import FleetTrail.Proofs.Service.Listings
import FleetTrail.Proofs.Telemetry.Rows
import FleetTrail.Store.Script
import Mathlib.Data.List.Induction

/-!
# Links in their trips

The links of a page come as one list and go each to the first row of its trip. `nest` says so by
looking through the links for every row; grouping them by trip once and taking the groups out of the
table gives the same. But for the nested parts, a detailed listing gives what a plain one gives.
-/

namespace FleetTrail

open Store Query Trip

namespace Service

/-- The links by trip, each group in the order of the links. -/
def groupByTrip (links : List OfferDetail) : Std.HashMap Int64 (List OfferDetail) :=
  links.foldl (fun groups link =>
    groups.alter link.tripId fun group => some (group.getD [] ++ [link])) ∅

/-- Converts the rows of a page. Each row takes the group of its trip out of the table. -/
def drain : Std.HashMap Int64 (List OfferDetail) → List DetailedRow →
    Except Failure (List Detailed)
  | _, [] => .ok []
  | groups, row :: rest => do
    let trip ← row.detailed (groups.getD row.trip.id [])
    return trip :: (← drain (groups.erase row.trip.id) rest)

theorem getD_groupByTrip (links : List OfferDetail) (id : Int64) :
    (groupByTrip links).getD id [] = links.filter (·.tripId = id) := by
  induction links using List.reverseRecOn with
  | nil => exact Std.HashMap.getD_empty
  | append_singleton links link ih =>
    rw [groupByTrip, List.foldl_append, ← groupByTrip, List.foldl_cons, List.foldl_nil,
      Std.HashMap.getD_alter, List.filter_append, ← ih]
    by_cases hid : link.tripId = id
    · subst hid
      simp [Std.HashMap.getD_eq_getD_getElem?]
    · simp [hid]

/-- What a row gets behind rows with the ids `seen`: the links of its trip, unless a row before it
has them. -/
def share (links : List OfferDetail) (seen : List Int64) (row : DetailedRow) : List OfferDetail :=
  if row.trip.id ∈ seen then [] else links.filter (·.tripId = row.trip.id)

private theorem nest_cons (links : List OfferDetail) (seen : List Int64) (row : DetailedRow)
    (rows : List DetailedRow) :
    nest links seen (row :: rows) = row.detailed (share links seen row) >>= fun d =>
      nest links (row.trip.id :: seen) rows >>= fun elements => .ok (d :: elements) := rfl

private theorem nest_eq_drain_of {links : List OfferDetail} {seen : List Int64}
    {groups : Std.HashMap Int64 (List OfferDetail)}
    (hgroups : ∀ id, groups.getD id [] = if id ∈ seen then [] else links.filter (·.tripId = id))
    (rows : List DetailedRow) : nest links seen rows = drain groups rows := by
  induction rows generalizing seen groups with
  | nil => rfl
  | cons row rows ih =>
    have hrest : ∀ id, (groups.erase row.trip.id).getD id [] =
        if id ∈ row.trip.id :: seen then [] else links.filter (·.tripId = id) := by
      intro id
      rw [Std.HashMap.getD_erase, hgroups]
      by_cases hid : row.trip.id = id
      · simp [hid]
      · simp [hid, Ne.symm hid]
    simp only [nest, drain, hgroups, ih hrest]

/-- Looking through the links for every row gives what the table gives. -/
theorem nest_eq_drain (links : List OfferDetail) (rows : List DetailedRow) :
    nest links [] rows = drain (groupByTrip links) rows :=
  nest_eq_drain_of (fun id => by rw [getD_groupByTrip, if_neg List.not_mem_nil]) rows

/-- The entry of a row: its trip, the driver and the vehicle that were joined, and `offers`. -/
structure Entry (row : DetailedRow) (offers : List OfferDetail) (d : Detailed) : Prop where
  trip : row.trip.trip = .ok d.trip
  driver : d.driver = row.joinedDriverId.map fun id => ⟨id, row.driverName, row.driverPhone⟩
  vehicle : d.vehicle = row.joinedVehicleId.map fun id =>
    ⟨id, row.vehiclePlateNumber, row.vehicleModel⟩
  offers : d.offers = offers

theorem entry_of_detailed {row : DetailedRow} {offers : List OfferDetail} {d : Detailed}
    (h : row.detailed offers = .ok d) : Entry row offers d := by
  obtain ⟨trip, htrip, hd⟩ := bind_eq_ok_iff.mp h
  cases pure_eq_ok_iff.mp hd
  exact ⟨htrip, rfl, rfl, rfl⟩

def tripIds (rows : List DetailedRow) : List Int64 := rows.map (·.trip.id)

/-- One entry for each row, in their order, with the links that the rows before have left. -/
structure Nests (links : List OfferDetail) (rows : List DetailedRow) (elements : List Detailed) :
    Prop where
  length_eq : elements.length = rows.length
  shown : ∀ i row, rows[i]? = some row →
    ∃ d, elements[i]? = some d ∧ Entry row (share links (tripIds (rows.take i)) row) d

private theorem nest_entries {links : List OfferDetail} {seen : List Int64}
    {rows : List DetailedRow} {elements : List Detailed}
    (h : nest links seen rows = .ok elements) :
    elements.length = rows.length ∧ ∀ i row, rows[i]? = some row → ∃ d,
      elements[i]? = some d ∧ Entry row (share links (tripIds (rows.take i) ++ seen) row) d := by
  induction rows generalizing seen elements with
  | nil =>
    cases h
    refine ⟨rfl, fun i row hrow => ?_⟩
    rw [List.getElem?_nil] at hrow
    cases hrow
  | cons first rows ih =>
    obtain ⟨d, hd, hrest⟩ := bind_eq_ok_iff.mp ((nest_cons links seen first rows).symm.trans h)
    obtain ⟨rest, hnest, helements⟩ := bind_eq_ok_iff.mp hrest
    cases helements
    obtain ⟨hlength, hshown⟩ := ih hnest
    refine ⟨congrArg Nat.succ hlength, fun i row hrow => ?_⟩
    cases i with
    | zero =>
      cases hrow
      exact ⟨d, rfl, entry_of_detailed hd⟩
    | succ i =>
      obtain ⟨e, he, hentry⟩ := hshown i row hrow
      refine ⟨e, he, ?_⟩
      have hshare : share links (tripIds ((first :: rows).take (i + 1)) ++ seen) row =
          share links (tripIds (rows.take i) ++ first.trip.id :: seen) row := by
        simp [share, tripIds, or_left_comm]
      rw [hshare]
      exact hentry

theorem nests_of_nest {links : List OfferDetail} {rows : List DetailedRow}
    {elements : List Detailed} (h : nest links [] rows = .ok elements) :
    Nests links rows elements := by
  obtain ⟨hlength, hshown⟩ := nest_entries h
  simp only [List.append_nil] at hshown
  exact ⟨hlength, hshown⟩

/-- But for the nested parts, nesting converts the rows one after the other. -/
theorem nest_trips (links : List OfferDetail) (seen : List Int64) (rows : List DetailedRow) :
    (nest links seen rows).map (List.map Detailed.trip) =
      (rows.map DetailedRow.trip).mapM TripRow.trip := by
  induction rows generalizing seen with
  | nil => rfl
  | cons row rows ih =>
    rw [nest_cons, List.map_cons, List.mapM_cons, ← ih (row.trip.id :: seen),
      DetailedRow.detailed]
    cases row.trip.trip with
    | error failure => rfl
    | ok trip => cases nest links (row.trip.id :: seen) rows <;> rfl

private theorem mem_tripIds_cons {id : Int64} {row : DetailedRow} {rows : List DetailedRow} :
    id ∈ tripIds (row :: rows) ↔ id = row.trip.id ∨ id ∈ tripIds rows := List.mem_cons

private theorem nest_offers {links : List OfferDetail} {seen : List Int64}
    {rows : List DetailedRow} {elements : List Detailed}
    (h : nest links seen rows = .ok elements) :
    (elements.flatMap Detailed.offers).Perm
      (links.filter fun link => link.tripId ∈ tripIds rows ∧ link.tripId ∉ seen) := by
  induction rows generalizing seen elements with
  | nil =>
    cases h
    simp [tripIds]
  | cons row rows ih =>
    obtain ⟨d, hd, hrest⟩ := bind_eq_ok_iff.mp ((nest_cons links seen row rows).symm.trans h)
    obtain ⟨rest, hnest, helements⟩ := bind_eq_ok_iff.mp hrest
    cases helements
    rw [List.flatMap_cons, (entry_of_detailed hd).offers]
    refine ((ih hnest).append_left _).trans ?_
    by_cases hseen : row.trip.id ∈ seen
    · rw [share, if_pos hseen, List.nil_append]
      refine .of_eq (List.filter_congr fun link _ => ?_)
      simp only [mem_tripIds_cons, List.mem_cons]
      grind
    · rw [share, if_neg hseen]
      -- what is due to this row and what is due to the rows behind it
      have hsplit := List.filter_append_perm (fun link : OfferDetail => link.tripId = row.trip.id)
        (links.filter fun link => link.tripId ∈ tripIds (row :: rows) ∧ link.tripId ∉ seen)
      rw [List.filter_filter, List.filter_filter] at hsplit
      refine .trans (.of_eq ?_) hsplit
      congr 1 <;>
        refine List.filter_congr fun link _ => ?_ <;>
        simp only [mem_tripIds_cons, List.mem_cons] <;>
        grind

/-- The links of the trips on the page stand each in one entry, the others in none. -/
theorem nest_keeps_links {links : List OfferDetail} {rows : List DetailedRow}
    {elements : List Detailed} (h : nest links [] rows = .ok elements) :
    (elements.flatMap Detailed.offers).Perm (links.filter (·.tripId ∈ tripIds rows)) := by
  simpa using nest_offers h

theorem Fetches.reads {β : Type} {statement : Statement} {read : Row → Except StoreError β}
    {exchanges : List Exchange} {result : Except Failure (List β)}
    (h : Fetches statement read exchanges result) :
    ∃ answer : Answer, exchanges.map Exchange.answer = [answer] ∧ ∀ values,
      result = .ok values ↔ ∃ reply, answer = .ok reply ∧ reply.rows.mapM read = .ok values := by
  cases h with
  | refused e => exact ⟨_, rfl, fun values => ⟨nofun, nofun⟩⟩
  | @unreadable reply row e hmem hunread =>
    refine ⟨_, rfl, fun values => ⟨nofun, ?_⟩⟩
    rintro ⟨_, ⟨⟩, hvalues⟩
    obtain ⟨b, -, hread⟩ := exists_of_forall₂ (mapM_eq_ok_iff.mp hvalues).flip hmem
    cases hunread.symm.trans hread
  | @read reply values hall =>
    refine ⟨_, rfl, fun values' => ?_⟩
    rw [← mapM_eq_ok_iff] at hall
    constructor
    · rintro ⟨⟩
      exact ⟨reply, rfl, hall⟩
    · rintro ⟨_, ⟨⟩, hvalues⟩
      cases hall.symm.trans hvalues
      rfl

private theorem Converts.reads {α β : Type} {read : Row → Except StoreError β}
    {convert : β → Except Failure α} {statement : Statement} {exchanges : List Exchange}
    {result : Except Failure (List α)} (h : Converts read convert statement exchanges result) :
    ∃ answer : Answer, exchanges.map Exchange.answer = [answer] ∧ ∀ reply values,
      answer = .ok reply → reply.rows.mapM read = .ok values → result = values.mapM convert := by
  cases h with
  | unread hfetched =>
    obtain ⟨answer, hanswer, hreads⟩ := hfetched.reads
    refine ⟨answer, hanswer, fun reply values hreply hvalues => ?_⟩
    cases (hreads values).mpr ⟨reply, hreply, hvalues⟩
  | converted hfetched =>
    obtain ⟨answer, hanswer, hreads⟩ := hfetched.reads
    refine ⟨answer, hanswer, fun reply values hreply hvalues => ?_⟩
    cases (hreads values).mpr ⟨reply, hreply, hvalues⟩
    rfl

private theorem mapM_trip {raws : List Row} {rows : List DetailedRow}
    (h : raws.mapM DetailedRow.ofRow = .ok rows) :
    raws.mapM TripRow.ofRow = .ok (rows.map DetailedRow.trip) := by
  rw [mapM_eq_ok_iff] at h ⊢
  rw [List.forall₂_map_right_iff]
  exact h.imp fun _ _ => trip_of_ofRow

private theorem Lists.looksUp {α : Type} {offer : Option Offer.Filter}
    {query : Offer.Correlation → Except Fault (Option Select)}
    {page : Statement → Conduct (List α)} {asked : List Exchange}
    {result : Except Failure (List α)} (h : Lists offer query page asked result)
    (hset : Offer.SetsCriterion offer) :
    ∃ answer later, asked.map Exchange.answer = answer :: later := by
  cases h with
  | unset hunset => exact absurd hset hunset
  | failed _ _ hfetched | none _ _ hfetched =>
    obtain ⟨answer, hone, -⟩ := hfetched.reads
    exact ⟨answer, [], hone⟩
  | some _ _ hfetched =>
    obtain ⟨answer, hone, -⟩ := hfetched.reads
    rw [List.map_append, hone]
    exact ⟨answer, _, rfl⟩

section Agreement

variable {reply : Reply} {links : List OfferDetail}
  (hlinks : reply.rows.mapM OfferDetail.ofRow = .ok links)

include hlinks

private theorem pages_agree {statement statement' : Statement} {asked asked' : List Exchange}
    {result : Except Failure (List Detailed)} {plain : Except Failure (List Trip)}
    (h : NestedPages statement asked result)
    (h' : Converts TripRow.ofRow TripRow.trip statement' asked' plain)
    (hanswers : asked.map Exchange.answer = asked'.map Exchange.answer ++ [.ok reply]) :
    plain = result.map (List.map Detailed.trip) := by
  obtain ⟨answer, hanswer, hconverts⟩ := h'.reads
  rw [hanswer] at hanswers
  cases h with
  | unread hfetched | empty hfetched =>
    obtain ⟨_, hone, -⟩ := hfetched.reads
    rw [hone] at hanswers
    cases hanswers
  | unlinked hfetched _ hunlinked =>
    obtain ⟨_, hone, -⟩ := hfetched.reads
    obtain ⟨_, hother, hreads⟩ := hunlinked.reads
    rw [List.map_append, hone, hother] at hanswers
    cases hanswers
    cases (hreads links).mpr ⟨reply, rfl, hlinks⟩
  | @nested _ _ rows details hfetched _ hlinked =>
    obtain ⟨_, hone, hreads⟩ := hfetched.reads
    obtain ⟨_, hother, -⟩ := hlinked.reads
    rw [List.map_append, hone, hother] at hanswers
    cases hanswers
    obtain ⟨page, hpage, hrows⟩ := (hreads rows).mp rfl
    rw [nest_trips]
    exact hconverts page _ hpage (mapM_trip hrows)

/-- With the same answers, and links behind them, both listings come to the same trips or fail in
the same way. -/
theorem listings_agree {offer : Option Offer.Filter}
    {query query' : Offer.Correlation → Except Fault (Option Select)}
    {asked asked' : List Exchange} {result : Except Failure (List Detailed)}
    {plain : Except Failure (List Trip)} (h : Lists offer query NestedPages asked result)
    (h' : Lists offer query' (Converts TripRow.ofRow TripRow.trip) asked' plain)
    (hanswers : asked.map Exchange.answer = asked'.map Exchange.answer ++ [.ok reply]) :
    plain = result.map (List.map Detailed.trip) := by
  cases h with
  | unset hunset _ hpaged =>
    cases h' with
    | unset _ _ hpaged' => exact pages_agree hlinks hpaged hpaged' hanswers
    | failed hset | none hset | some hset => exact absurd hset hunset
  | failed hset _ hfetched | none hset _ hfetched =>
    obtain ⟨_, hone, -⟩ := hfetched.reads
    obtain ⟨_, _, hlookup⟩ := h'.looksUp hset
    rw [hone, hlookup] at hanswers
    simp at hanswers
  | @some lookup _ _ _ _ _ ids _ hset hasked hfetched hne _ hpaged =>
    obtain ⟨_, hone, hreads⟩ := hfetched.reads
    have hids := (hreads ids).mp rfl
    rw [List.map_append, hone] at hanswers
    cases h' with
    | unset hunset' => exact absurd hset hunset'
    | failed _ hasked' hfetched' =>
      cases hasked.symm.trans hasked'
      obtain ⟨_, hone', hreads'⟩ := hfetched'.reads
      rw [hone', List.singleton_append, List.singleton_append] at hanswers
      cases (List.cons.inj hanswers).1
      cases (hreads' ids).mpr hids
    | none _ hasked' hfetched' =>
      cases hasked.symm.trans hasked'
      obtain ⟨_, hone', hreads'⟩ := hfetched'.reads
      rw [hone', List.singleton_append, List.singleton_append] at hanswers
      cases (List.cons.inj hanswers).1
      cases (hreads' ids).mpr hids
      exact absurd rfl hne
    | some _ _ hfetched' _ _ hpaged' =>
      obtain ⟨_, hone', -⟩ := hfetched'.reads
      rw [List.map_append, hone', List.append_assoc, List.singleton_append,
        List.singleton_append] at hanswers
      exact pages_agree hlinks hpaged hpaged' (List.cons.inj hanswers).2

end Agreement

/-- Two queries that differ in the columns they select only. -/
def DifferInColumns (extra : String) (plain extended : Except Fault (Option Select)) : Prop :=
  ∃ rest args notices,
    plain = .ok (some
      ⟨"SELECT " ++ Sql.tripColumns ++ " " ++ Sql.tripFrom ++ rest, args, notices⟩) ∧
    extended = .ok (some
      ⟨"SELECT " ++ Sql.tripColumns ++ ", " ++ extra ++ " " ++ Sql.tripFrom ++ rest, args, notices⟩)

theorem select_differInColumns (filter : Trip.Filter) {r : Offer.Correlation} (hr : r ≠ .noMatch)
    (limits : Limits) (extra : String) :
    DifferInColumns extra (Trip.select filter r limits none)
      (Trip.select filter r limits (some extra)) := by
  obtain ⟨c, order, notices, tail, -, -, htail, hselect⟩ := Trip.select_eq filter hr limits
  obtain ⟨rest, hrest⟩ : ∃ rest, tail = " " ++ (Sql.tripFrom ++ rest) := by
    simp only [String.append_assoc] at htail
    exact ⟨_, htail⟩
  refine ⟨rest, c.args ++ (Page.resolve limits filter.limit filter.offset).values, notices, ?_, ?_⟩
  · rw [hselect, hrest]
    simp only [Option.map_none, Option.getD_none, String.append_assoc, String.empty_append]
  · rw [hselect, hrest]
    simp only [Option.map_some, Option.getD_some, String.append_assoc]

/-- What rows come to with the links of their page: all of them are entries, or the first one that
does not convert is to blame. -/
inductive NestsOrFails (links : List OfferDetail) (rows : List DetailedRow) :
    Except Failure (List Detailed) → Prop
  | nested {elements : List Detailed} (nests : Nests links rows elements)
      (kept : (elements.flatMap Detailed.offers).Perm (links.filter (·.tripId ∈ tripIds rows))) :
      NestsOrFails links rows (.ok elements)
  | broken {before after : List DetailedRow} {row : DetailedRow} {failure : Failure}
      (rows_eq : rows = before ++ row :: after)
      (converted : ∀ earlier ∈ before, ∃ trip, earlier.trip.trip = .ok trip)
      (unconverted : row.trip.trip = .error failure) : NestsOrFails links rows (.error failure)

theorem nest_nestsOrFails (links : List OfferDetail) (rows : List DetailedRow) :
    NestsOrFails links rows (nest links [] rows) := by
  cases h : nest links [] rows with
  | ok elements => exact .nested (nests_of_nest h) (nest_keeps_links h)
  | error failure =>
    have htrips := nest_trips links [] rows
    rw [h] at htrips
    obtain ⟨before, trips, trip, after, hrows, hall, hfailed⟩ := mapM_eq_error_iff.mp htrips.symm
    obtain ⟨before, rest, rfl, rfl, hrest⟩ := List.map_eq_append_iff.mp hrows
    obtain ⟨row, after, rfl, rfl, rfl⟩ := List.map_eq_cons_iff.mp hrest
    refine .broken rfl (fun earlier hmem => ?_) hfailed
    obtain ⟨trip, -, htrip⟩ := exists_of_forall₂ hall.flip (List.mem_map_of_mem hmem)
    exact ⟨trip, htrip⟩

theorem joined_of_ofRow {raw : Row} {row : DetailedRow} (h : DetailedRow.ofRow raw = .ok row) :
    TripRow.ofRow raw = .ok row.trip ∧
    (row.joinedDriverId.isSome ↔ raw.cell "joined_driver_id" ≠ .null) ∧
    (row.joinedVehicleId.isSome ↔ raw.cell "joined_vehicle_id" ≠ .null) := by
  refine ⟨trip_of_ofRow h, ?_⟩
  simp only [DetailedRow.ofRow, bind_eq_ok_iff, pure_eq_ok_iff,
    Row.optional_eq_ok_iff Cell.reads_int] at h
  obtain ⟨_, -, _, -, _, -, _, -, _, -, driver, hdriver, vehicle, hvehicle, rfl⟩ := h
  rw [hdriver, hvehicle]
  constructor
  · cases driver <;> simp [Cell.ofOption]
  · cases vehicle <;> simp [Cell.ofOption]

theorem listDetailed_nests (limits : Limits) (filter : Trip.Filter) :
    Meets (listDetailed limits filter)
      (Lists filter.offer (fun r => Trip.select filter r limits (some Sql.tripDetailColumns))
        NestedPages) :=
  listing_meets filter.offer (detailed_obeys limits filter) detailedPage_nests

theorem listTrips_converts (limits : Limits) (filter : Trip.Filter) :
    Meets (listTrips limits filter)
      (Lists filter.offer (fun r => Trip.select filter r limits none)
        (Converts TripRow.ofRow TripRow.trip)) :=
  listing_meets filter.offer (plain_obeys limits filter) (page_converts _ _)

/-- A detailed listing selects what the plain one selects and its own columns, looks up the links of
its rows and nests each where it belongs, as if the links were grouped once. Its trips are those of
the plain listing of the same rows. -/
theorem detailed_listing_nests_links (limits : Limits) (filter : Trip.Filter) :
    (∀ columns, Trip.select filter .noMatch limits columns = .ok none) ∧
    (∀ r extra, r ≠ .noMatch → DifferInColumns extra (Trip.select filter r limits none)
      (Trip.select filter r limits (some extra))) ∧
    Meets (listDetailed limits filter)
      (Lists filter.offer (fun r => Trip.select filter r limits (some Sql.tripDetailColumns))
        NestedPages) ∧
    (∀ links rows, nest links [] rows = drain (groupByTrip links) rows ∧
      NestsOrFails links rows (nest links [] rows)) ∧
    (∀ raw row, DetailedRow.ofRow raw = .ok row → TripRow.ofRow raw = .ok row.trip ∧
      (row.joinedDriverId.isSome ↔ raw.cell "joined_driver_id" ≠ .null) ∧
      (row.joinedVehicleId.isSome ↔ raw.cell "joined_vehicle_id" ≠ .null)) ∧
    ∀ {σ τ : Type} (store : Responder σ) (s : σ) (store' : Responder τ) (s' : τ) (reply : Reply)
      (links : List OfferDetail),
      let detailed := (listDetailed limits filter).run.run store s
      let plain := (listTrips limits filter).run.run store' s'
      detailed.exchanges.map Exchange.answer =
        plain.exchanges.map Exchange.answer ++ [.ok reply] →
      reply.rows.mapM OfferDetail.ofRow = .ok links →
      plain.value = detailed.value.map (List.map Detailed.trip) := by
  refine ⟨fun columns => rfl, fun r extra hr => select_differInColumns filter hr limits extra,
    listDetailed_nests limits filter,
    fun links rows => ⟨nest_eq_drain links rows, nest_nestsOrFails links rows⟩,
    fun raw row h => joined_of_ofRow h, ?_⟩
  intro σ τ store s store' s' reply links detailed plain hanswers hlinks
  exact listings_agree hlinks (listDetailed_nests limits filter σ store s)
    (listTrips_converts limits filter τ store' s') hanswers

/-- A trip without a driver and without links between two rows of another trip, and a link of a trip
that is not on the page. -/
theorem page_nests_links_of_repeated_trip :
    let row (id : Int64) (driver : Cell) : Row :=
      [("id", .int id), ("status", .text "active"), ("meta_fields", .json .null),
        ("created_at", .time ⟨0, 0⟩), ("updated_at", .time ⟨0, 0⟩), ("joined_driver_id", driver)]
    let link (trip offer : Int64) : Row :=
      [("trip_id", .int trip), ("offer_id", .int offer), ("is_main", .bool true),
        ("status", .text "active")]
    let page : Reply := { rows := [row 1 (.int 5), row 2 .null, row 1 (.int 5)] }
    let linked : Reply := { rows := [link 1 10, link 9 11, link 1 12] }
    let detailed :=
      (listDetailed .standard {}).run.run Script.store { replies := [.ok page, .ok linked] }
    let plain := (listTrips .standard {}).run.run Script.store { replies := [.ok page] }
    plain.value = detailed.value.map (List.map Detailed.trip) ∧
    detailed.value.map (List.map fun d => (d.trip.id, d.driver.isSome, d.offers.map (·.offerId))) =
      .ok [(1, true, [10, 12]), (2, false, []), (1, true, [])] := by
  intro row link page linked detailed plain
  have hanswers : detailed.exchanges.map Exchange.answer =
      plain.exchanges.map Exchange.answer ++ [.ok linked] := rfl
  have hlinks : linked.rows.mapM OfferDetail.ofRow =
      .ok [⟨1, 10, true, "active", none, none, none⟩, ⟨9, 11, true, "active", none, none, none⟩,
        ⟨1, 12, true, "active", none, none, none⟩] := rfl
  exact ⟨(detailed_listing_nests_links .standard {}).2.2.2.2.2 Script.store _ Script.store _ linked _
    hanswers hlinks, rfl⟩

end Service

end FleetTrail
