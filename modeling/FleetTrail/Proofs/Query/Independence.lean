import FleetTrail.Proofs.Query.Completion
import FleetTrail.Proofs.Query.Outline
import FleetTrail.Telemetry.Select
import FleetTrail.Trip.Select

/-!
# Values never reach the text

Two requests that set the same criteria get the same text, whatever values they carry: the values
only travel in the argument lists, which agree in length and in the kinds of the values. Whether a
criterion is set is read off a request as a list of truth values.
-/

namespace FleetTrail

open Query Offer

/-- The same text with values of the same kinds, or no query in both. -/
def Query.SameText : Except Fault (Option Select) → Except Fault (Option Select) → Prop
  | .ok none, .ok none => True
  | .ok (some p), .ok (some q) =>
    p.sql = q.sql ∧ p.args.length = q.args.length ∧ p.args.map Value.kind = q.args.map Value.kind
  | _, _ => False

def Offer.Correlation.SameKind : Correlation → Correlation → Prop
  | .unfiltered, .unfiltered | .matched _, .matched _ | .noMatch, .noMatch => True
  | _, _ => False

/-- Two sort requests that come down to one order. -/
def Query.SameOrder (keys : List SortKey) (key direction key' direction' : Option String) : Prop :=
  (Order.resolve keys key direction).map Prod.fst =
    (Order.resolve keys key' direction').map Prod.fst

open Offer.Filter in
def Trip.Filter.criteria (f : Trip.Filter) : List Bool :=
  [f.id.isSome, f.driverId.isSome, f.vehicleId.isSome, f.status.isSome, f.fromCountry.isSome,
    f.toCountry.isSome, !blankTerm f.fromAddress, !blankTerm f.toAddress,
    f.startDateFrom.isSome, f.startDateTo.isSome, f.endDateFrom.isSome, f.endDateTo.isSome,
    f.createdFrom.isSome, f.createdTo.isSome, f.distanceMin.isSome, f.distanceMax.isSome,
    f.ids.isSome, f.excludeIds.isSome, f.driverIds.isSome, f.excludeDriverIds.isSome,
    f.vehicleIds.isSome, f.excludeVehicleIds.isSome, f.statuses.isSome,
    f.lat.isSome && f.lng.isSome && f.radiusKm.isSome, !blankTerm f.search]

open Offer.Filter in
def Telemetry.Filter.criteria (f : Telemetry.Filter) : List Bool :=
  [f.id.isSome, f.tripId.isSome, f.companyId.isSome, f.offerId.isSome, f.driverId.isSome,
    f.vehicleId.isSome, f.status.isSome, f.loggedFrom.isSome, f.loggedTo.isSome,
    f.createdFrom.isSome, f.createdTo.isSome, f.speedMin.isSome, f.speedMax.isSome,
    f.batteryMin.isSome, f.batteryMax.isSome, f.tripIds.isSome, f.companyIds.isSome,
    f.offerIds.isSome, f.driverIds.isSome, f.excludeDriverIds.isSome, f.vehicleIds.isSome,
    f.excludeVehicleIds.isSome, f.lat.isSome && f.lng.isSome && f.radiusKm.isSome,
    !blankTerm f.search]

def Telemetry.Selector.criteria (s : Telemetry.Selector) : List Bool :=
  [s.loggedAfter.isSome, s.tripIds.isSome, s.companyIds.isSome, s.offerIds.isSome,
    s.driverIds.isSome, s.vehicleIds.isSome]

def Offer.Filter.criteria (f : Offer.Filter) : List Bool :=
  [f.companyId.isSome, f.execCompanyId.isSome, f.country.isSome, f.fromCountry.isSome,
    f.toCountry.isSome, f.state.isSome, !blankTerm f.address, f.validFrom.isSome,
    f.validTo.isSome, f.deliveryFrom.isSome, f.deliveryTo.isSome, f.costMin.isSome,
    f.costMax.isSome, f.priceMin.isSome, f.priceMax.isSome, !blankTerm f.search]

section Outlines

theorem likePattern_isSome (term : Option String) :
    (likePattern term).isSome = !Offer.Filter.blankTerm term := by
  cases term with
  | none => rfl
  | some text =>
    have hblank := Text.trim_eq_nil_iff text.toList
    by_cases hempty : Text.trim text.toList = []
    · simp [likePattern, Offer.Filter.blankTerm, Text.allBlank, hempty, hblank.mp hempty]
    · have hnot : text.toList.all Text.isBlank = false := by
        rw [← Bool.not_eq_true]
        exact fun h => hempty (hblank.mpr h)
      simp [likePattern, Offer.Filter.blankTerm, Text.allBlank, hempty, hnot]

private theorem likePattern_congr {t u : Option String}
    (h : (!Offer.Filter.blankTerm t) = !Offer.Filter.blankTerm u) :
    (likePattern t).isSome = (likePattern u).isSome := by
  rw [likePattern_isSome, likePattern_isSome, h]

private theorem kind_congr {α : Type} {x y : Option α} (h : x.isSome = y.isSome)
    {make : α → Value} {kind : Kind} (hkind : ∀ a, (make a).kind = kind) :
    (x.map make).map Value.kind = (y.map make).map Value.kind := by
  cases x <;> cases y <;> simp_all

theorem Trip.Filter.calls_outline {f g : Trip.Filter} (h : f.criteria = g.criteria)
    {ids ids' : Option (List Int64)} (hids : ids.isSome = ids'.isSome) :
    (f.calls ids).map Call.outline = (g.calls ids').map Call.outline := by
  simp only [criteria, List.cons.injEq, and_true] at h
  obtain ⟨hid, hdriver, hvehicle, hstatus, hfromCountry, htoCountry, hfromAddress, htoAddress,
    hstartFrom, hstartTo, hendFrom, hendTo, hcreatedFrom, hcreatedTo, hdistanceMin, hdistanceMax,
    hidList, hnotIds, hdrivers, hnotDrivers, hvehicles, hnotVehicles, hstatuses, hradius,
    hsearch⟩ := h
  simp only [calls, List.map_cons, List.map_nil, List.cons.injEq, and_true]
  exact ⟨trivial, offerIds_outline hids, eq_outline (kind_congr hid fun _ => rfl),
    eq_outline (kind_congr hdriver fun _ => rfl), eq_outline (kind_congr hvehicle fun _ => rfl),
    eq_outline (kind_congr hstatus fun _ => rfl),
    eq_outline (kind_congr hfromCountry fun _ => rfl),
    eq_outline (kind_congr htoCountry fun _ => rfl),
    contains_outline (likePattern_congr hfromAddress),
    contains_outline (likePattern_congr htoAddress),
    range_outline (kind_congr hstartFrom fun _ => rfl) (kind_congr hstartTo fun _ => rfl),
    range_outline (kind_congr hendFrom fun _ => rfl) (kind_congr hendTo fun _ => rfl),
    range_outline (kind_congr hcreatedFrom fun _ => rfl) (kind_congr hcreatedTo fun _ => rfl),
    range_outline (kind_congr hdistanceMin fun _ => rfl) (kind_congr hdistanceMax fun _ => rfl),
    within_outline (kind_congr hidList fun _ => rfl),
    notWithin_outline (kind_congr hnotIds fun _ => rfl),
    within_outline (kind_congr hdrivers fun _ => rfl),
    notWithin_outline (kind_congr hnotDrivers fun _ => rfl),
    within_outline (kind_congr hvehicles fun _ => rfl),
    notWithin_outline (kind_congr hnotVehicles fun _ => rfl),
    within_outline (kind_congr hstatuses fun _ => rfl), withinRadius_outline hradius,
    search_outline (likePattern_congr hsearch)⟩

theorem Telemetry.Filter.calls_outline {f g : Telemetry.Filter} (h : f.criteria = g.criteria)
    {ids ids' : Option (List Int64)} (hids : ids.isSome = ids'.isSome) :
    (f.calls ids).map Call.outline = (g.calls ids').map Call.outline := by
  simp only [criteria, List.cons.injEq, and_true] at h
  obtain ⟨hid, htrip, hcompany, hoffer, hdriver, hvehicle, hstatus, hloggedFrom, hloggedTo,
    hcreatedFrom, hcreatedTo, hspeedMin, hspeedMax, hbatteryMin, hbatteryMax, htrips, hcompanies,
    hoffers, hdrivers, hnotDrivers, hvehicles, hnotVehicles, hradius, hsearch⟩ := h
  simp only [calls, List.map_cons, List.map_nil, List.cons.injEq, and_true]
  exact ⟨trivial, offerIds_outline hids, eq_outline (kind_congr hid fun _ => rfl),
    eq_outline (kind_congr htrip fun _ => rfl), eq_outline (kind_congr hcompany fun _ => rfl),
    eq_outline (kind_congr hoffer fun _ => rfl), eq_outline (kind_congr hdriver fun _ => rfl),
    eq_outline (kind_congr hvehicle fun _ => rfl), eq_outline (kind_congr hstatus fun _ => rfl),
    range_outline (kind_congr hloggedFrom fun _ => rfl) (kind_congr hloggedTo fun _ => rfl),
    range_outline (kind_congr hcreatedFrom fun _ => rfl) (kind_congr hcreatedTo fun _ => rfl),
    range_outline (kind_congr hspeedMin fun _ => rfl) (kind_congr hspeedMax fun _ => rfl),
    range_outline (kind_congr hbatteryMin fun _ => rfl) (kind_congr hbatteryMax fun _ => rfl),
    within_outline (kind_congr htrips fun _ => rfl),
    within_outline (kind_congr hcompanies fun _ => rfl),
    within_outline (kind_congr hoffers fun _ => rfl),
    within_outline (kind_congr hdrivers fun _ => rfl),
    notWithin_outline (kind_congr hnotDrivers fun _ => rfl),
    within_outline (kind_congr hvehicles fun _ => rfl),
    notWithin_outline (kind_congr hnotVehicles fun _ => rfl), withinRadius_outline hradius,
    search_outline (likePattern_congr hsearch)⟩

theorem Telemetry.Selector.calls_outline {s t : Telemetry.Selector} (h : s.criteria = t.criteria)
    {ids ids' : Option (List Int64)} (hids : ids.isSome = ids'.isSome) :
    (s.calls ids).map Call.outline = (t.calls ids').map Call.outline := by
  simp only [criteria, List.cons.injEq, and_true] at h
  obtain ⟨hloggedAfter, htrips, hcompanies, hoffers, hdrivers, hvehicles⟩ := h
  simp only [calls, List.map_cons, List.map_nil, List.cons.injEq, and_true]
  exact ⟨trivial, offerIds_outline hids,
    range_outline (kind_congr hloggedAfter fun _ => rfl) rfl,
    within_outline (kind_congr htrips fun _ => rfl),
    within_outline (kind_congr hcompanies fun _ => rfl),
    within_outline (kind_congr hoffers fun _ => rfl),
    within_outline (kind_congr hdrivers fun _ => rfl),
    within_outline (kind_congr hvehicles fun _ => rfl)⟩

private theorem Offer.companyCall_outline {f g : Offer.Filter}
    (hcompany : f.companyId.isSome = g.companyId.isSome)
    (hexec : f.execCompanyId.isSome = g.execCompanyId.isSome) (hrole : f.role = g.role) :
    (companyCall f).outline = (companyCall g).outline := by
  have hid : (f.companyId.map Value.int).map Value.kind =
      (g.companyId.map Value.int).map Value.kind := kind_congr hcompany fun _ => rfl
  simp only [companyCall, hrole]
  cases g.role with
  | some role => cases role <;> exact eq_outline hid
  | none =>
    revert hexec
    cases f.execCompanyId with
    | none =>
      cases g.execCompanyId with
      | none => exact fun _ => eqAny_outline hid
      | some company => exact fun h => Bool.noConfusion h
    | some company =>
      cases g.execCompanyId with
      | none => exact fun h => Bool.noConfusion h
      | some company => exact fun _ => eq_outline hid

theorem Offer.Filter.calls_outline {f g : Offer.Filter} (h : f.criteria = g.criteria)
    (hrole : f.role = g.role) : f.calls.map Call.outline = g.calls.map Call.outline := by
  simp only [criteria, List.cons.injEq, and_true] at h
  obtain ⟨hcompany, hexec, hcountry, hfromCountry, htoCountry, hstate, haddress, hvalidFrom,
    hvalidTo, hdeliveryFrom, hdeliveryTo, hcostMin, hcostMax, hpriceMin, hpriceMax, hsearch⟩ := h
  simp only [calls, List.map_cons, List.map_nil, List.cons.injEq, and_true]
  exact ⟨trivial, companyCall_outline hcompany hexec hrole,
    eq_outline (kind_congr hexec fun _ => rfl), eqAny_outline (kind_congr hcountry fun _ => rfl),
    eq_outline (kind_congr hfromCountry fun _ => rfl),
    eq_outline (kind_congr htoCountry fun _ => rfl), eq_outline (kind_congr hstate fun _ => rfl),
    contains_outline (likePattern_congr haddress),
    range_outline (kind_congr hvalidFrom fun _ => rfl) (kind_congr hvalidTo fun _ => rfl),
    range_outline (kind_congr hdeliveryFrom fun _ => rfl) (kind_congr hdeliveryTo fun _ => rfl),
    range_outline (kind_congr hcostMin fun _ => rfl) (kind_congr hcostMax fun _ => rfl),
    range_outline (kind_congr hpriceMin fun _ => rfl) (kind_congr hpriceMax fun _ => rfl),
    search_outline (likePattern_congr hsearch)⟩

end Outlines

/-- Two clauses with the same text, whose values have the same kinds. -/
structure Query.Compiled.Twin (c c' : Compiled) : Prop where
  clause_eq : c.clause = c'.clause
  kinds_eq : c.args.map Value.kind = c'.args.map Value.kind
  next_eq : c.next = c'.next
  filterCount_eq : c.filterCount = c'.filterCount

section Selects

/-- Filters of one outline compile to twins, with room for a page. -/
private theorem compile_twins {calls calls' : List Call} (h : Orderly calls)
    (h' : Orderly calls') (houtline : calls.map Call.outline = calls'.map Call.outline) :
    ∃ c c', compile calls = .ok c ∧ compile calls' = .ok c' ∧ c.Twin c' ∧
      c.next + 2 ≤ placeholderLimit := by
  obtain ⟨b, hrun, hlimit⟩ := h.run
  obtain ⟨b', hrun', -⟩ := h'.run
  have htwins := Builder.run_twins houtline (b := Builder.startingAt 1) rfl
  rw [hrun, hrun'] at htwins
  have hsame := Except.ok.inj htwins
  simp only [Builder.outline, BuilderOutline.mk.injEq] at hsame
  obtain ⟨hfragments, hkinds, hnext, -, hguards⟩ := hsame
  refine ⟨b.build, b'.build, by rw [compile, hrun]; rfl, by rw [compile, hrun']; rfl,
    ⟨?_, hkinds, hnext, ?_⟩, hlimit⟩
  · simp only [Builder.build, hfragments]
  · simp only [Builder.build, Builder.filterCount, hfragments, hguards]

private theorem limitClause_twins {c c' : Compiled} (h : c.Twin c')
    (hlimit : c.next + 2 ≤ placeholderLimit) (limit offset limit' offset' : Int64) :
    ∃ text d d', c.limitClause limit offset = .ok (text, d) ∧
      c'.limitClause limit' offset' = .ok (text, d') ∧ d.Twin d' := by
  have hok : ¬placeholderLimit < c.next + 2 := by omega
  have hok' : ¬placeholderLimit < c'.next + 2 := by rw [← h.next_eq]; exact hok
  have htwin : Compiled.Twin
      { c with args := c.args ++ [.int limit, .int offset], next := c.next + 2 }
      { c' with args := c'.args ++ [.int limit', .int offset'], next := c'.next + 2 } := by
    refine ⟨h.clause_eq, ?_, congrArg (· + 2) h.next_eq, h.filterCount_eq⟩
    simp only [List.map_append, h.kinds_eq]
    rfl
  refine ⟨_, _, _, if_neg hok, ?_, htwin⟩
  rw [Compiled.limitClause, if_neg hok', h.next_eq]

theorem Query.Order.resolve_isOk {keys : List SortKey} (hne : keys ≠ [])
    (key direction : Option String) :
    ∃ order notice, Order.resolve keys key direction = .ok (order, notice) ∧
      order.column ∈ keys.map SortKey.column := by
  cases keys with
  | nil => exact absurd rfl hne
  | cons first rest =>
    unfold Order.resolve
    cases key with
    | none => exact ⟨_, _, rfl, List.mem_cons_self⟩
    | some key =>
      simp only
      split
      · exact ⟨_, _, rfl, List.mem_cons_self⟩
      · next entry hfind =>
        have hentry := List.mem_map_of_mem (f := SortKey.column) (List.mem_of_find?_eq_some hfind)
        split
        · exact ⟨_, _, rfl, hentry⟩
        · exact ⟨_, _, rfl, List.mem_cons_self⟩

private theorem resolve_same {keys : List SortKey} (hne : keys ≠ [])
    {key direction key' direction' : Option String}
    (h : SameOrder keys key direction key' direction') :
    ∃ order notice notice', Order.resolve keys key direction = .ok (order, notice) ∧
      Order.resolve keys key' direction' = .ok (order, notice') := by
  obtain ⟨order, notice, hresolve, -⟩ := Order.resolve_isOk hne key direction
  obtain ⟨order', notice', hresolve', -⟩ := Order.resolve_isOk hne key' direction'
  rw [SameOrder, hresolve, hresolve'] at h
  have heq : order = order' := Except.ok.inj h
  exact ⟨order, notice, notice', hresolve, by rw [hresolve', heq]⟩

private theorem sameKind_cases {r r' : Correlation} (h : r.SameKind r') :
    (r = .noMatch ∧ r' = .noMatch) ∨
      r ≠ .noMatch ∧ r' ≠ .noMatch ∧ r.ids?.isSome = r'.ids?.isSome := by
  cases r <;> cases r' <;> first | exact h.elim | simp [Correlation.ids?]

private theorem Query.Compiled.Twin.sameText {c c' : Compiled} (h : c.Twin c')
    (write : String → String) (notices notices' : List Notice) :
    SameText (.ok (some ⟨write c.clause, c.args, notices⟩))
      (.ok (some ⟨write c'.clause, c'.args, notices'⟩)) := by
  have hlength : c.args.length = c'.args.length := by
    simpa only [List.length_map] using congrArg List.length h.kinds_eq
  exact ⟨congrArg write h.clause_eq, hlength, h.kinds_eq⟩

private def listing (calls : List Call) (keys : List SortKey) (key direction : Option String)
    (page : Page) (write : String → Order → String → String) : Except Fault (Option Select) := do
  let compiled ← compile calls
  let (order, notice) ← Order.resolve keys key direction
  let (limit, compiled) ← compiled.limitClause page.limit page.offset
  return some ⟨write compiled.clause order limit, compiled.args, notice.toList.map Notice.sort⟩

private theorem listing_same {calls calls' : List Call} (h : Orderly calls) (h' : Orderly calls')
    (houtline : calls.map Call.outline = calls'.map Call.outline) {keys : List SortKey}
    (hne : keys ≠ []) {key direction key' direction' : Option String}
    (horder : SameOrder keys key direction key' direction') (page page' : Page)
    (write : String → Order → String → String) :
    SameText (listing calls keys key direction page write)
      (listing calls' keys key' direction' page' write) := by
  obtain ⟨c, c', hc, hc', htwin, hlimit⟩ := compile_twins h h' houtline
  obtain ⟨order, notice, notice', hresolve, hresolve'⟩ := resolve_same hne horder
  obtain ⟨limit, d, d', hd, hd', htwin'⟩ :=
    limitClause_twins htwin hlimit page.limit page.offset page'.limit page'.offset
  simp only [listing, hc, hc', hresolve, hresolve', hd, hd', bind, Except.bind, pure, Except.pure]
  exact htwin'.sameText (fun clause => write clause order limit) _ _

private theorem tripSelect_same {f g : Trip.Filter} (h : f.criteria = g.criteria)
    (horder : SameOrder Trip.sortKeys f.orderBy f.orderDir g.orderBy g.orderDir)
    {r r' : Correlation} (hkind : r.SameKind r') (limits limits' : Limits)
    (extra : Option String) :
    SameText (Trip.select f r limits extra) (Trip.select g r' limits' extra) := by
  rcases sameKind_cases hkind with ⟨rfl, rfl⟩ | ⟨hr, hr', hids⟩
  · trivial
  · have hsame := listing_same (f.orderly r.ids?) (g.orderly r'.ids?)
      (Trip.Filter.calls_outline h hids) (by decide) horder (Page.resolve limits f.limit f.offset)
      (Page.resolve limits' g.limit g.offset)
    simp only [Trip.select, if_neg hr, if_neg hr']
    exact hsame fun clause order limit => _ ++ clause ++ _ ++ order.sql ++ _ ++ limit

private theorem telemetrySelect_same {f g : Telemetry.Filter} (h : f.criteria = g.criteria)
    (horder : SameOrder Telemetry.sortKeys f.orderBy f.orderDir g.orderBy g.orderDir)
    {r r' : Correlation} (hkind : r.SameKind r') (limits limits' : Limits) :
    SameText (Telemetry.select f r limits) (Telemetry.select g r' limits') := by
  rcases sameKind_cases hkind with ⟨rfl, rfl⟩ | ⟨hr, hr', hids⟩
  · trivial
  · have hsame := listing_same (f.orderly r.ids?) (g.orderly r'.ids?)
      (Telemetry.Filter.calls_outline h hids) (by decide) horder
      (Page.resolve limits f.limit f.offset) (Page.resolve limits' g.limit g.offset)
    simp only [Telemetry.select, if_neg hr, if_neg hr']
    exact hsame fun clause order limit => _ ++ clause ++ _ ++ order.sql ++ _ ++ limit

private theorem lastPositionSelect_same {s t : Telemetry.Selector}
    (h : s.criteria = t.criteria) {r r' : Correlation} (hkind : r.SameKind r') :
    SameText (Telemetry.lastPositionSelect s r) (Telemetry.lastPositionSelect t r') := by
  rcases sameKind_cases hkind with ⟨rfl, rfl⟩ | ⟨hr, hr', hids⟩
  · trivial
  · obtain ⟨c, c', hc, hc', htwin, -⟩ := compile_twins (s.orderly r.ids?) (t.orderly r'.ids?)
      (Telemetry.Selector.calls_outline h hids)
    simp only [Telemetry.lastPositionSelect, if_neg hr, if_neg hr', Telemetry.Selector.compile,
      hc, hc', bind, Except.bind, pure, Except.pure]
    exact htwin.sameText (fun clause => _ ++ clause ++ _ ++ _ ++ _) _ _

theorem Offer.Filter.isEmpty_eq (f : Offer.Filter) : f.isEmpty = f.criteria.all (!·) := by
  simp only [Offer.Filter.isEmpty, Offer.Filter.criteria, List.all_cons, List.all_nil,
    Bool.not_not, Option.not_isSome, Bool.and_true, Bool.and_assoc]

private theorem idSelect_same {f g : Offer.Filter} (h : f.criteria = g.criteria)
    (hrole : f.role = g.role) : SameText (Offer.idSelect (some f)) (Offer.idSelect (some g)) := by
  obtain ⟨c, c', hc, hc', htwin, -⟩ := compile_twins f.orderly g.orderly
    (Offer.Filter.calls_outline h hrole)
  simp only [Offer.idSelect, f.isEmpty_eq, g.isEmpty_eq, h, Offer.Filter.compile, hc, hc', bind, Except.bind,
    pure, Except.pure, htwin.filterCount_eq]
  split
  · trivial
  · split
    · trivial
    · exact htwin.sameText (fun clause => _ ++ clause ++ _) _ _

/-- No filter asks as little as a filter without criteria. -/
private theorem idSelect_getD (f : Option Offer.Filter) :
    Offer.idSelect f = Offer.idSelect (some (f.getD {})) := by
  cases f <;> rfl

end Selects

/-- Requests that set the same criteria get the same texts, whatever their values are. -/
theorem values_never_reach_text :
    (∀ (f g : Trip.Filter) (r r' : Correlation) (limits limits' : Limits) (extra : Option String),
      f.criteria = g.criteria →
      SameOrder Trip.sortKeys f.orderBy f.orderDir g.orderBy g.orderDir → r.SameKind r' →
      SameText (Trip.select f r limits extra) (Trip.select g r' limits' extra)) ∧
    (∀ (f g : Telemetry.Filter) (r r' : Correlation) (limits limits' : Limits),
      f.criteria = g.criteria →
      SameOrder Telemetry.sortKeys f.orderBy f.orderDir g.orderBy g.orderDir → r.SameKind r' →
      SameText (Telemetry.select f r limits) (Telemetry.select g r' limits')) ∧
    (∀ (s t : Telemetry.Selector) (r r' : Correlation), s.criteria = t.criteria →
      r.SameKind r' →
      SameText (Telemetry.lastPositionSelect s r) (Telemetry.lastPositionSelect t r')) ∧
    (∀ f g : Option Offer.Filter, (f.getD {}).criteria = (g.getD {}).criteria →
      (f.getD {}).role = (g.getD {}).role → SameText (Offer.idSelect f) (Offer.idSelect g)) :=
  ⟨fun _ _ _ _ limits limits' extra h horder hkind =>
      tripSelect_same h horder hkind limits limits' extra,
    fun _ _ _ _ limits limits' h horder hkind =>
      telemetrySelect_same h horder hkind limits limits',
    fun _ _ _ _ h hkind => lastPositionSelect_same h hkind,
    fun f g h hrole => by
      rw [idSelect_getD f, idSelect_getD g]
      exact idSelect_same h hrole⟩

/-- Two requests, one of them with pieces of SQL for its values and its sort key. -/
theorem values_never_reach_text_of_search :
    let f : Trip.Filter := { search := some "Berlin", fromCountry := some "DE", limit := some 5 }
    let g : Trip.Filter := { search := some "%'; DROP TABLE trips; --",
                             fromCountry := some "' OR true", orderBy := some "1; --" }
    SameText (Trip.select f (.matched [1, 2]) ⟨50, 100⟩ none)
      (Trip.select g (.matched []) ⟨20, 100⟩ none) := by
  intro f g
  have hcriteria : f.criteria = g.criteria := rfl
  have horder : SameOrder Trip.sortKeys f.orderBy f.orderDir g.orderBy g.orderDir := rfl
  exact values_never_reach_text.1 f g (.matched [1, 2]) (.matched []) ⟨50, 100⟩ ⟨20, 100⟩ none
    hcriteria horder trivial

end FleetTrail
