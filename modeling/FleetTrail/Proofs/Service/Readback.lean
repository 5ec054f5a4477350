import FleetTrail.Proofs.Service.Listings
import FleetTrail.Proofs.Service.Replies
import FleetTrail.Proofs.Service.Written
import FleetTrail.Proofs.Store.Locking

/-!
# Points that are read back

What the listings and the end of a trip make of the texts of points that they are shown. They fail
to decode a point only when a text that they were shown is to blame, and such a text fails the whole
page that it is on and keeps its trip from being ended. With what is written, this says when all
that is written can be read back.
-/

namespace FleetTrail

namespace Store

def Row.texts (row : Row) (columns : List String) : List String :=
  columns.filterMap fun column => (row.cell column).text?

def pointColumns : List String := ["coordinates", "from_location", "to_location"]

def Exchange.points (x : Exchange) : List String :=
  match x.answer with
  | .ok reply => reply.rows.flatMap (·.texts pointColumns)
  | .error _ => []

/-- The texts of points that are shown in the course of exchanges. -/
def shown (exchanges : List Exchange) : List String := exchanges.flatMap Exchange.points

@[simp] theorem shown_cons (x : Exchange) (later : List Exchange) :
    shown (x :: later) = x.points ++ shown later := List.flatMap_cons

@[simp] theorem shown_append (before later : List Exchange) :
    shown (before ++ later) = shown before ++ shown later := List.flatMap_append

theorem mem_shown {exchanges : List Exchange} {request : Request} {reply : Reply} {row : Row}
    {text : String} (hx : ⟨request, .ok reply⟩ ∈ exchanges) (hrow : row ∈ reply.rows)
    (htext : text ∈ row.texts pointColumns) : text ∈ shown exchanges :=
  List.mem_flatMap.mpr ⟨_, hx, List.mem_flatMap.mpr ⟨row, hrow, htext⟩⟩

theorem Row.text_of_optional {row : Row} {column : String} {raw : Option String}
    (h : row.optional column Cell.text? = .ok raw) : (row.cell column).text? = raw := by
  rw [Row.optional] at h
  generalize row.cell column = cell at h ⊢
  cases cell <;> cases h <;> rfl

end Store

open Store Geo

namespace Service

open Query Trip Telemetry

section Rows

variable {row : Row} {column : String} {raw : Option String}

/-- Some text in the columns of points of a row is no point, for the reason `e`. -/
def Blamed (row : Row) (e : PointError) : Prop :=
  ∃ text ∈ row.texts pointColumns, Point.ofText text = .error e

theorem blamed_of_optional (hcolumn : column ∈ pointColumns)
    (hread : row.optional column Cell.text? = .ok raw) {e : PointError}
    (h : Point.ofOptionalText raw = .error e) : Blamed row e := by
  cases raw with
  | none => cases h
  | some text =>
    refine ⟨text, List.mem_filterMap.mpr ⟨column, hcolumn, Row.text_of_optional hread⟩, ?_⟩
    exact Point.ofOptionalText_some_eq_error_iff.mp h

theorem readable_of_optional (hread : row.optional column Cell.text? = .ok raw)
    {location : Option Point} (h : Point.ofOptionalText raw = .ok location) :
    Readable (row.texts [column]) := by
  intro text htext
  obtain ⟨_, hcolumn, hcell⟩ := List.mem_filterMap.mp htext
  obtain rfl := List.mem_singleton.mp hcolumn
  rw [Row.text_of_optional hread] at hcell
  subst hcell
  obtain ⟨p, hp, -⟩ := Point.ofOptionalText_some_eq_ok_iff.mp h
  exact ⟨p, hp⟩

theorem coordinates_of_ofRow {r : SampleRow} (h : SampleRow.ofRow row = .ok r) :
    row.optional "coordinates" Cell.text? = .ok r.coordinates := by
  simp only [SampleRow.ofRow, bind_eq_ok_iff, pure_eq_ok_iff] at h
  grind

theorem locations_of_ofRow {r : TripRow} (h : TripRow.ofRow row = .ok r) :
    row.optional "from_location" Cell.text? = .ok r.fromLocation ∧
      row.optional "to_location" Cell.text? = .ok r.toLocation := by
  simp only [TripRow.ofRow, bind_eq_ok_iff, pure_eq_ok_iff] at h
  grind

theorem blamed_of_sample {r : SampleRow} {e : PointError} (hread : SampleRow.ofRow row = .ok r)
    (h : sampleOf r = .error (.decode e)) : Blamed row e := by
  obtain ⟨_, hsample, ⟨⟩⟩ := mapError_eq_error_iff.mp h
  obtain hpoint | ⟨_, -, ⟨⟩⟩ := bind_eq_error_iff.mp hsample
  exact blamed_of_optional (by decide) (coordinates_of_ofRow hread) hpoint

theorem readable_of_sample {r : SampleRow} {sample : Sample} (hread : SampleRow.ofRow row = .ok r)
    (h : sampleOf r = .ok sample) : Readable (row.texts ["coordinates"]) := by
  obtain ⟨location, hlocation, -⟩ := bind_eq_ok_iff.mp (mapError_eq_ok_iff.mp h)
  exact readable_of_optional (coordinates_of_ofRow hread) hlocation

theorem blamed_of_trip {r : TripRow} {e : PointError} (hread : TripRow.ofRow row = .ok r)
    (h : r.trip = .error (.decode e)) : Blamed row e := by
  obtain ⟨hfrom, hto⟩ := locations_of_ofRow hread
  obtain horigin | ⟨_, -, h⟩ := bind_eq_error_iff.mp h
  · exact blamed_of_optional (by decide) hfrom (read_of_locationOf_error horigin)
  obtain hdestination | ⟨_, -, h⟩ := bind_eq_error_iff.mp h
  · exact blamed_of_optional (by decide) hto (read_of_locationOf_error hdestination)
  obtain hstatus | ⟨_, -, ⟨⟩⟩ := bind_eq_error_iff.mp h
  rw [Status.ofText] at hstatus
  split at hstatus <;> cases hstatus

theorem readable_of_trip {r : TripRow} {trip : Trip} (hread : TripRow.ofRow row = .ok r)
    (h : r.trip = .ok trip) : Readable (row.texts ["from_location", "to_location"]) := by
  obtain ⟨hfrom, hto⟩ := locations_of_ofRow hread
  obtain ⟨_, horigin, h⟩ := bind_eq_ok_iff.mp h
  obtain ⟨_, hdestination, -⟩ := bind_eq_ok_iff.mp h
  intro text htext
  obtain ⟨column, hcolumn, hcell⟩ := List.mem_filterMap.mp htext
  have htext : text ∈ row.texts [column] :=
    List.mem_filterMap.mpr ⟨column, List.mem_singleton_self column, hcell⟩
  obtain rfl | hcolumn := List.mem_cons.mp hcolumn
  · exact readable_of_optional hfrom (read_of_locationOf horigin) text htext
  · obtain rfl := List.mem_singleton.mp hcolumn
    exact readable_of_optional hto (read_of_locationOf hdestination) text htext

end Rows

section Conducts

variable {α β : Type} {columns : List String} {exchanges : List Exchange}

/-- It fails to decode a point only when it was shown a text that is to blame. -/
def Blames : Conduct α := fun exchanges result =>
  ∀ e, result = .error (.decode e) → ∃ text ∈ shown exchanges, Point.ofText text = .error e

/-- It succeeds only when the points in some columns of its last reply are readable. -/
def Clears (columns : List String) : Conduct α := fun exchanges result =>
  ∀ a request reply, result = .ok a → exchanges.getLast? = some ⟨request, .ok reply⟩ →
    ∀ row ∈ reply.rows, Readable (row.texts columns)

theorem blames_of_blamed {request : Request} {reply : Reply} {row : Row} {failure : Failure}
    (hx : ⟨request, .ok reply⟩ ∈ exchanges) (hrow : row ∈ reply.rows)
    (h : ∀ e, failure = .decode e → Blamed row e) :
    Blames exchanges (.error failure : Except Failure α) := by
  rintro e ⟨⟩
  obtain ⟨text, htext, hread⟩ := h e rfl
  exact ⟨text, mem_shown hx hrow htext, hread⟩

theorem Fetches.blames {statement : Statement} {read : Row → Except StoreError β}
    {failure : Failure} (h : Fetches statement read exchanges (.error failure))
    {all : List Exchange} : Blames all (.error failure : Except Failure α) := by
  cases h <;> exact nofun

theorem converting_blamed {read : Row → Except StoreError β} {convert : β → Except Failure α}
    (h : ∀ {row b e}, read row = .ok b → convert b = .error (.decode e) → Blamed row e) {row : Row}
    {e : PointError} (hrow : converting read convert row = .error (.decode e)) : Blamed row e := by
  obtain hread | ⟨b, hread, hconvert⟩ := bind_eq_error_iff.mp hrow
  · obtain ⟨_, -, ⟨⟩⟩ := mapError_eq_error_iff.mp hread
  · exact h (mapError_eq_ok_iff.mp hread) hconvert

theorem Pages.ne_nil {convert : Row → Except Failure α} {statement : Statement}
    {result : Except Failure (List α)} (h : Pages convert statement exchanges result) :
    exchanges ≠ [] := by
  cases h <;> exact List.cons_ne_nil _ _

theorem Pages.blames {read : Row → Except StoreError β} {convert : β → Except Failure α}
    {statement : Statement} {result : Except Failure (List α)}
    (hblamed : ∀ {row b e}, read row = .ok b → convert b = .error (.decode e) → Blamed row e)
    (h : Pages (converting read convert) statement exchanges result) : Blames exchanges result := by
  cases h with
  | refused e => exact nofun
  | complete all => exact nofun
  | broken mem unconverted =>
    refine blames_of_blamed List.mem_cons_self mem fun e hfailure => ?_
    exact converting_blamed hblamed (hfailure ▸ unconverted)

theorem Pages.clears {read : Row → Except StoreError β} {convert : β → Except Failure α}
    {statement : Statement} {result : Except Failure (List α)}
    (hreadable : ∀ {row b a}, read row = .ok b → convert b = .ok a → Readable (row.texts columns))
    (h : Pages (converting read convert) statement exchanges result) :
    Clears columns exchanges result := by
  intro elements request reply hresult hlast row hrow
  subst hresult
  cases h with
  | complete all =>
    cases hlast
    obtain ⟨element, -, helement⟩ := exists_of_forall₂ all.flip hrow
    obtain ⟨b, hread, hconvert⟩ := bind_eq_ok_iff.mp helement
    exact hreadable (mapError_eq_ok_iff.mp hread) hconvert

/-- The trips of a page are converted before anything is made of their links. -/
theorem DetailedPages.blames {statement : Statement} {result : Except Failure (List Detailed)}
    (h : DetailedPages statement exchanges result) : Blames exchanges result := by
  cases h with
  | unread fetched => exact fetched.blames
  | empty fetched => exact nofun
  | unlinked _ _ linked => exact linked.blames
  | complete _ _ _ _ => exact nofun
  | @broken page links rows details row failure fetched mem linked unconverted =>
    cases fetched with
    | read all =>
      obtain ⟨shownRow, hrow, hread⟩ := exists_of_forall₂ all mem
      refine blames_of_blamed (List.mem_append_left _ List.mem_cons_self) hrow fun e hfailure => ?_
      obtain htrip | ⟨_, -, ⟨⟩⟩ := bind_eq_error_iff.mp (unconverted [])
      exact blamed_of_trip (trip_of_ofRow hread) (hfailure ▸ htrip)

section Listings

variable {offer : Option Offer.Filter} {query : Offer.Correlation → Except Fault (Option Select)}
  {page : Statement → Conduct (List α)} {result : Except Failure (List α)}

theorem Lists.blames (hpage : ∀ {statement exchanges}, page statement exchanges result →
      Blames exchanges result)
    (h : Lists offer query page exchanges result) : Blames exchanges result := by
  cases h with
  | unset _ _ paged => exact hpage paged
  | failed _ _ fetched => exact fetched.blames
  | none _ _ _ => exact nofun
  | some _ _ _ _ _ paged =>
    intro e hresult
    obtain ⟨text, htext, hread⟩ := hpage paged e hresult
    exact ⟨text, by rw [shown_append]; exact List.mem_append_right _ htext, hread⟩

theorem Lists.clears (hpage : ∀ {statement exchanges}, page statement exchanges result →
      exchanges ≠ [] ∧ Clears columns exchanges result)
    (h : Lists offer query page exchanges result) : Clears columns exchanges result := by
  cases h with
  | unset _ _ paged => exact (hpage paged).2
  | failed _ _ fetched => exact nofun
  | none _ _ fetched =>
    rintro _ _ reply - hlast row hrow
    cases fetched with
    | read all =>
      cases hlast
      rw [List.forall₂_nil_right_iff.mp all] at hrow
      cases hrow
  | some _ _ _ _ _ paged =>
    obtain ⟨hne, hclears⟩ := hpage paged
    intro a request reply hresult hlast
    rw [List.getLast?_append_of_ne_nil _ hne] at hlast
    exact hclears a request reply hresult hlast

end Listings

end Conducts

theorem blamed_of_tripSample {row : Row} {e : PointError}
    (h : readTripSample row = .error (.decode e)) : Blamed row e := by
  obtain hread | ⟨r, hread, hsample⟩ := bind_eq_error_iff.mp h
  · obtain ⟨_, -, ⟨⟩⟩ := mapError_eq_error_iff.mp hread
  · exact blamed_of_sample (mapError_eq_ok_iff.mp hread) hsample

theorem readable_of_tripSample {row : Row} {sample : Sample} (h : readTripSample row = .ok sample) :
    Readable (row.texts ["coordinates"]) := by
  obtain ⟨r, hread, hsample⟩ := bind_eq_ok_iff.mp h
  exact readable_of_sample (mapError_eq_ok_iff.mp hread) hsample

/-- Of the steps of an ending, only the snapshot decodes points. -/
theorem blames_closePlan {trip driver : Int64} {phase : Option Phase} {body : List Exchange}
    {e : PointError} (h : Carried phase (closePlan trip driver) body (.error (.decode e))) :
    ∃ text ∈ shown body, Point.ofText text = .error e := by
  obtain ⟨_, ⟨⟩⟩ | ⟨_, _, rfl, hlocked⟩ := h.of_step_error
  obtain howned | ⟨status, -, hactive⟩ := hlocked.of_require_error
  · cases ownedStatus_eq_error_iff.mp howned
  obtain hchecked | ⟨_, -, hload⟩ := hactive.of_require_error
  · obtain ⟨-, ⟨⟩⟩ | ⟨-, -, ⟨⟩⟩ := checkActive_eq_error_iff.mp hchecked
  obtain ⟨_, ⟨⟩⟩ | ⟨reply, _, rfl, hloaded⟩ := hload.of_step_error
  obtain hsamples | ⟨samples, -, hcomplete⟩ := hloaded.of_require_error
  · obtain ⟨_, _, row, _, hrows, -, hfailure⟩ := mapM_eq_error_iff.mp hsamples
    obtain ⟨text, htext, hread⟩ := blamed_of_tripSample hfailure
    have hrow : row ∈ reply.rows := by simp [hrows]
    exact ⟨text, mem_shown (List.mem_cons_of_mem _ List.mem_cons_self) hrow htext, hread⟩
  obtain ⟨_, ⟨⟩⟩ | ⟨_, _, rfl, hcompleted⟩ := hcomplete.of_step_error
  obtain hone | ⟨_, -, hfinish⟩ := hcompleted.of_require_error
  · obtain ⟨-, ⟨⟩⟩ := completedOne_eq_error_iff.mp hone
  · cases hfinish

/-- A trip can be ended only when all of its telemetry is readable. -/
theorem clears_closePlan {trip driver : Int64} {phase : Option Phase} {body : List Exchange}
    {n : Nat} (h : Carried phase (closePlan trip driver) body (.ok n)) {reply : Reply}
    (hreply : ⟨.data (readStatement trip), .ok reply⟩ ∈ body) {row : Row}
    (hrow : row ∈ reply.rows) : Readable (row.texts ["coordinates"]) := by
  obtain ⟨_, _, rfl, hlocked⟩ := h.of_step_ok
  obtain ⟨_, -, hactive⟩ := hlocked.of_require_ok
  obtain ⟨_, -, hload⟩ := hactive.of_require_ok
  obtain ⟨loaded, _, rfl, hloaded⟩ := hload.of_step_ok
  obtain ⟨samples, hsamples, hcomplete⟩ := hloaded.of_require_ok
  obtain ⟨_, _, rfl, hcompleted⟩ := hcomplete.of_step_ok
  obtain ⟨_, -, hfinish⟩ := hcompleted.of_require_ok
  cases hfinish
  simp only [List.mem_cons, Exchange.mk.injEq, Request.data.injEq, List.not_mem_nil, or_false]
    at hreply
  obtain ⟨heq, -⟩ | ⟨-, heq⟩ | ⟨heq, -⟩ := hreply
  · exact absurd heq.symm lock_ne_read
  · cases heq
    have hall := mapM_eq_ok_iff.mp hsamples
    obtain ⟨sample, -, hsample⟩ := exists_of_forall₂ hall.flip hrow
    exact readable_of_tripSample hsample
  · exact absurd heq read_ne_complete

section Operations

variable {σ : Type} (store : Responder σ) (s : σ)

theorem endTrip_blames (trip driver : Int64) (company : Option Int64) :
    Blames ((endTrip trip driver company).run.run store s).exchanges
      ((endTrip trip driver company).run.run store s).value := by
  intro e herror
  have hunit := endTrip_atomic store trip driver company s
  rw [herror] at hunit
  generalize ((endTrip trip driver company).run.run store s).exchanges = exchanges at hunit ⊢
  cases hunit with
  | rolledBack answer carried =>
    obtain ⟨text, htext, hread⟩ := blames_closePlan carried
    refine ⟨text, ?_, hread⟩
    rw [shown_append, shown_cons]
    exact List.mem_append_left _ (List.mem_append_right _ htext)

theorem endTrip_clears {trip driver : Int64} {company : Option Int64}
    (h : ((endTrip trip driver company).run.run store s).value = .ok ()) {reply : Reply}
    (hreply : ⟨.data (readStatement trip), .ok reply⟩ ∈
      ((endTrip trip driver company).run.run store s).exchanges) {row : Row}
    (hrow : row ∈ reply.rows) : Readable (row.texts ["coordinates"]) := by
  have hunit := endTrip_atomic store trip driver company s
  rw [h] at hunit
  obtain ⟨_, body, _, _, hexchanges, hcarried⟩ := hunit.of_ok
  rw [hexchanges] at hreply
  have hbody : ⟨.data (readStatement trip), .ok reply⟩ ∈ body := by simpa using hreply
  exact clears_closePlan hcarried hbody hrow

/-- The points that a committed run writes, each read as itself exactly when it lies on the globe;
and no listing and no end of a trip fails to decode a point unless it is shown a text that cannot be
read, while one such text fails its whole page and keeps its trip from being ended. -/
theorem written_points_read_back :
    (∀ (p : Point) (text : String), p.token? = some text →
      Point.ofText text = if p.OnGlobe then .ok p else .error (.outOfRange p.lat p.lng)) ∧
    (∀ (readings : List Reading) (n : Nat),
      let run := (ingest readings).run.run store s
      run.value = .ok n →
        written run.exchanges = (readings.map (·.coordinates)).filterMap (·.token?) ∧
        (Readable (written run.exchanges) ↔ ∀ r ∈ readings, r.coordinates.OnGlobe)) ∧
    (∀ (o : Opening) (trip : Int64),
      let run := (startTrip o).run.run store s
      run.value = .ok trip →
        ∃ offer reply primary origin destination,
          ⟨.data ⟨Sql.selectOfferDefaults, [.int (some offer)]⟩, .ok reply⟩ ∈ run.exchanges ∧
          primaryOf offer reply = .ok primary ∧
          Supplied o.fromLocation primary.fromLocation origin ∧
          Supplied o.toLocation primary.toLocation destination ∧
          written run.exchanges = [origin, destination].filterMap Point.tokenOf ∧
          (Readable (written run.exchanges) ↔
            (∀ p ∈ o.fromLocation, p.OnGlobe) ∧ ∀ p ∈ o.toLocation, p.OnGlobe)) ∧
    (∀ (limits : Limits) (filter : Telemetry.Filter),
      let run := (listTelemetry limits filter).run.run store s
      Blames run.exchanges run.value ∧ Clears ["coordinates"] run.exchanges run.value) ∧
    (∀ selector : Telemetry.Selector,
      let run := (lastPositions selector).run.run store s
      Blames run.exchanges run.value ∧ Clears ["coordinates"] run.exchanges run.value) ∧
    (∀ (limits : Limits) (filter : Trip.Filter),
      let run := (listTrips limits filter).run.run store s
      Blames run.exchanges run.value ∧
        Clears ["from_location", "to_location"] run.exchanges run.value) ∧
    (∀ (limits : Limits) (filter : Trip.Filter),
      let run := (listDetailed limits filter).run.run store s
      Blames run.exchanges run.value) ∧
    ∀ (trip driver : Int64) (company : Option Int64),
      let run := (endTrip trip driver company).run.run store s
      Blames run.exchanges run.value ∧
        (run.value = .ok () → ∀ reply, ⟨.data (readStatement trip), .ok reply⟩ ∈ run.exchanges →
          ∀ row ∈ reply.rows, Readable (row.texts ["coordinates"])) := by
  refine ⟨fun p text => p.ofText_written, fun readings n h => ?_, fun o trip h => ?_,
    fun limits filter => ?_, fun selector => ?_, fun limits filter => ?_, fun limits filter => ?_,
    fun trip driver company => ⟨endTrip_blames store s trip driver company,
      fun h reply hreply row => endTrip_clears store s h hreply⟩⟩
  · have hwritten := written_ingest store s h
    refine ⟨hwritten, ?_⟩
    rw [hwritten, readable_tokens]
    exact List.forall_mem_map
  · obtain ⟨offer, reply, primary, origin, destination, hmem, hlent, horigin, hdestination,
      hwritten⟩ := written_startTrip store s h
    refine ⟨offer, reply, primary, origin, destination, hmem, hlent, horigin, hdestination,
      hwritten, ?_⟩
    rw [hwritten, readable_locations, horigin.onGlobe_iff, hdestination.onGlobe_iff]
  · have hlists := listTelemetry_meets limits filter σ store s
    exact ⟨hlists.blames (Pages.blames blamed_of_sample),
      hlists.clears fun paged => ⟨paged.ne_nil, paged.clears readable_of_sample⟩⟩
  · have hlists := lastPositions_meets selector σ store s
    exact ⟨hlists.blames (Pages.blames blamed_of_sample),
      hlists.clears fun paged => ⟨paged.ne_nil, paged.clears readable_of_sample⟩⟩
  · have hlists := listTrips_meets limits filter σ store s
    exact ⟨hlists.blames (Pages.blames blamed_of_trip),
      hlists.clears fun paged => ⟨paged.ne_nil, paged.clears readable_of_trip⟩⟩
  · exact (listDetailed_meets limits filter σ store s).blames DetailedPages.blames

end Operations

/-- A store that keeps the points it is given and shows a sample, and a trip, for each. -/
def keeper : Responder (List String) where
  answer kept request :=
    let rows : List Row := kept.map fun text =>
      [("id", .int 1), ("vehicle_id", .int 2), ("driver_id", .int 3), ("status", .text "active"),
        ("coordinates", .text text), ("logged_at", .time ⟨0, 0⟩), ("created_at", .time ⟨0, 0⟩)]
    (.ok ⟨rows, 1⟩, kept ++ request.points)

def farPayload : ByteArray :=
  "\x7b\"vehicleId\":2,\"driverId\":3,\"tripId\":7,\"lat\":\"200\",\"lng\":\"5\"\x7d".toUTF8

/-- The report is taken; from then on neither the telemetry nor the last positions can be listed,
and the trip cannot be ended. -/
theorem far_point_blocks_trip :
    let stored := (deliver farPayload).run keeper []
    stored.value.toOption = some 1 ∧ stored.state = ["POINT(5 200)"] ∧
    ((listTelemetry .standard {}).run.run keeper stored.state).value =
      .error (.decode (.outOfRange 200.0 5.0)) ∧
    ((lastPositions {}).run.run keeper stored.state).value =
      .error (.decode (.outOfRange 200.0 5.0)) ∧
    ((endTrip 7 3 none).run.run keeper stored.state).value =
      .error (.decode (.outOfRange 200.0 5.0)) := by
  have hkept : ((deliver farPayload).run keeper []).state = ["POINT(5 200)"] := by decide +kernel
  refine ⟨by decide +kernel, hkept, ?_⟩
  rw [hkept]
  exact ⟨rfl, rfl, rfl⟩

end Service

end FleetTrail
