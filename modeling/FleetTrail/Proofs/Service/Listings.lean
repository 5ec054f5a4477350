import FleetTrail.Proofs.Offer.Correlation
import FleetTrail.Proofs.Result
import FleetTrail.Proofs.Service.Atomicity
import FleetTrail.Proofs.Store.Bound
import FleetTrail.Service.Listing

/-!
# What a listing asks

A listing resolves its offer criteria, asks for its rows and converts them. `Meets` says what a
session asks and gives on every store, and sequencing sessions sequences what they meet. A listing
is empty or fails as soon as its lookup says so, and else it asks for the rows of the offers that
were found, or of all offers when no criterion is set.
-/

namespace FleetTrail

open Store Query Offer

/-- A statement sends a query: its text, with all of its values in their order. -/
structure Query.Select.SentAs (select : Select) (statement : Statement) : Prop where
  sql : statement.sql = select.sql
  args : List.Forall₂ Value.BoundAs select.args statement.args

def Query.Select.statement (select : Select) : Statement :=
  ⟨select.sql, Service.boundArgs select.args⟩

theorem Query.Select.sentAs (select : Select) : select.SentAs select.statement := by
  refine ⟨rfl, ?_⟩
  rw [statement, Service.boundArgs, List.forall₂_map_right_iff, List.forall₂_same]
  exact fun v _ => v.boundAs_ofValue

namespace Service

/-- What is asked, and what is given. -/
abbrev Conduct (α : Type) := List Exchange → Except Failure α → Prop

/-- On every store, a session behaves in this way. -/
def Meets {α : Type} (work : Work α) (conduct : Conduct α) : Prop :=
  ∀ (σ : Type) (store : Responder σ) (s : σ),
    conduct (work.run.run store s).exchanges (work.run.run store s).value

/-- One way after the other; a failure ends it. -/
def Conduct.then {α β : Type} (first : Conduct α) (next : α → Conduct β) : Conduct β :=
  fun exchanges result =>
    (∃ failure, first exchanges (.error failure) ∧ result = .error failure) ∨
      ∃ a before after, first before (.ok a) ∧ next a after result ∧ exchanges = before ++ after

def Conduct.still {α : Type} (result : Except Failure α) : Conduct α :=
  fun exchanges given => exchanges = [] ∧ given = result

def Conduct.asking (statement : Statement) (wrap : StoreError → Failure) : Conduct Reply :=
  fun exchanges result => ∃ answer : Answer,
    exchanges = [⟨.data statement, answer⟩] ∧ result = answer.mapError wrap

namespace Meets

variable {α β : Type}

theorem mono {work : Work α} {conduct conduct' : Conduct α} (h : Meets work conduct)
    (himp : ∀ exchanges result, conduct exchanges result → conduct' exchanges result) :
    Meets work conduct' := fun σ store s => himp _ _ (h σ store s)

theorem check (result : Except Failure α) : Meets (Service.check result) (.still result) :=
  fun _ _ _ => ⟨rfl, rfl⟩

theorem pure (a : α) : Meets (pure a) (.still (.ok a)) := fun _ _ _ => ⟨rfl, rfl⟩

theorem ask (wrap : StoreError → Failure) (sql : String) (args : List Bound) :
    Meets (Service.ask wrap sql args) (.asking ⟨sql, args⟩ wrap) := by
  intro σ store s
  refine ⟨(store.answer s (.data ⟨sql, args⟩)).1, ?_⟩
  have hrun : (Service.ask wrap sql args).run =
      Session.ask (.data ⟨sql, args⟩) fun answer => .done (answer.mapError wrap) := by
    refine congrArg (Session.ask _) (funext fun answer => ?_)
    cases answer <;> rfl
  rw [hrun, Session.exchanges_ask]
  exact ⟨rfl, rfl⟩

theorem bind {work : Work α} {f : α → Work β} {first : Conduct α} {next : α → Conduct β}
    (h : Meets work first) (hf : ∀ a, Meets (f a) (next a)) :
    Meets (work >>= f) (first.then next) := by
  intro σ store s
  have hfirst := h σ store s
  rw [run_bind, Session.exchanges_bind, Session.value_bind]
  generalize work.run.run store s = run at hfirst ⊢
  obtain ⟨value, trace, state⟩ := run
  cases value with
  | error failure =>
    refine .inl ⟨failure, ?_, rfl⟩
    rw [proceed, Session.exchanges_done, List.append_nil]
    exact hfirst
  | ok a => exact .inr ⟨a, _, _, hfirst, hf a σ store state, rfl⟩

end Meets

/-- Asks for rows and reads all of them. -/
inductive Fetches {β : Type} (statement : Statement) (read : Row → Except StoreError β) :
    Conduct (List β)
  | refused (e : StoreError) :
      Fetches statement read [⟨.data statement, .error e⟩] (.error (.database e))
  | unreadable {reply : Reply} {row : Row} {e : StoreError} (mem : row ∈ reply.rows)
      (unread : read row = .error e) :
      Fetches statement read [⟨.data statement, .ok reply⟩] (.error (.database e))
  | read {reply : Reply} {values : List β}
      (all : List.Forall₂ (fun row b => read row = .ok b) reply.rows values) :
      Fetches statement read [⟨.data statement, .ok reply⟩] (.ok values)

theorem noteAll_meets (notices : List Notice) : Meets (noteAll notices) (.still (.ok ())) := by
  induction notices with
  | nil => exact Meets.pure ()
  | cons notice rest ih => exact fun σ store s => ih σ store s

theorem readAll_meets {β : Type} (sql : String) (args : List Bound)
    (read : Row → Except StoreError β) :
    Meets (ask .database sql args >>= fun reply => decode .database (reply.rows.mapM read))
      (Fetches ⟨sql, args⟩ read) := by
  refine ((Meets.ask .database sql args).bind fun reply => Meets.check _).mono ?_
  rintro exchanges result (⟨failure, ⟨answer, rfl, hanswer⟩, rfl⟩ |
    ⟨reply, _, _, ⟨answer, rfl, hanswer⟩, ⟨rfl, rfl⟩, rfl⟩)
  · cases answer with
    | error e =>
      cases hanswer
      exact .refused e
    | ok reply => cases hanswer
  · cases answer with
    | error e => cases hanswer
    | ok reply =>
      cases hanswer
      obtain ⟨values, hvalues, hall⟩ | ⟨row, hmem, e, hrow, hvalues⟩ :=
        mapM_cases read reply.rows
      · rw [hvalues]
        exact .read hall
      · rw [hvalues]
        exact .unreadable hmem hrow

theorem fetch_meets {β : Type} (select : Select) (read : Row → Except StoreError β) :
    Meets (fetch select read) (Fetches select.statement read) := by
  refine ((noteAll_meets select.notices).bind fun _ => readAll_meets _ _ read).mono ?_
  rintro exchanges result (⟨failure, ⟨rfl, hfailure⟩, rfl⟩ | ⟨_, _, after, ⟨rfl, -⟩, hread, rfl⟩)
  · cases hfailure
  · exact hread

theorem trip_of_ofRow {row : Row} {r : Trip.DetailedRow} (h : Trip.DetailedRow.ofRow row = .ok r) :
    Trip.TripRow.ofRow row = .ok r.trip := by
  simp only [Trip.DetailedRow.ofRow, bind_eq_ok_iff, pure_eq_ok_iff] at h
  grind

/-- Asks for the offers of a filter when a criterion is set. -/
inductive Correlates (offer : Option Offer.Filter) : Conduct Correlation
  | unset (unset : ¬SetsCriterion offer) : Correlates offer [] (.ok .unfiltered)
  | failed {lookup : Select} {statement : Statement} {exchanges : List Exchange} {failure : Failure}
      (set : SetsCriterion offer) (asked : idSelect offer = .ok (some lookup))
      (fetched : Fetches statement Row.id exchanges (.error failure))
      (sent : lookup.SentAs statement) : Correlates offer exchanges (.error failure)
  | found {lookup : Select} {statement : Statement} {exchanges : List Exchange} {ids : List Int64}
      (set : SetsCriterion offer) (asked : idSelect offer = .ok (some lookup))
      (fetched : Fetches statement Row.id exchanges (.ok ids)) (sent : lookup.SentAs statement) :
      Correlates offer exchanges (.ok (.ofIds ids))

theorem correlate_meets (offer : Option Offer.Filter) :
    Meets (correlate offer) (Correlates offer) := by
  obtain ⟨hset, hunset⟩ := idSelect_eq offer
  by_cases h : SetsCriterion offer
  · obtain ⟨lookup, hlookup⟩ := hset h
    have hwork : correlate offer = fetch lookup Row.id >>= fun ids => do
        if Correlation.ofIds ids = .noMatch then
          Work.log .debug "Offer criteria matched nothing, short-circuiting"
        return Correlation.ofIds ids := by
      rw [correlate, hlookup]
      rfl
    have hrest (ids : List Int64) : Meets (do
        if Correlation.ofIds ids = .noMatch then
          Work.log .debug "Offer criteria matched nothing, short-circuiting"
        return Correlation.ofIds ids) (.still (.ok (.ofIds ids))) := by
      intro σ store s
      split <;> exact ⟨rfl, rfl⟩
    rw [hwork]
    refine ((fetch_meets lookup Row.id).bind hrest).mono ?_
    rintro exchanges result (⟨failure, hfetched, rfl⟩ | ⟨ids, _, _, hfetched, ⟨rfl, rfl⟩, rfl⟩)
    · exact .failed h hlookup hfetched lookup.sentAs
    · rw [List.append_nil]
      exact .found h hlookup hfetched lookup.sentAs
  · have hwork : correlate offer = pure .unfiltered := by
      rw [correlate, hunset h]
      rfl
    rw [hwork]
    refine (Meets.pure _).mono ?_
    rintro exchanges result ⟨rfl, rfl⟩
    exact .unset h

/-- A listing: offer criteria, the query they lead to, and the page that it brings. -/
def listing {α : Type} (offer : Option Offer.Filter)
    (query : Correlation → Except Fault (Option Select)) (page : Select → Work (List α)) :
    Work (List α) := do
  let correlation ← correlate offer
  match ← built (query correlation) with
  | none => return []
  | some select => page select

/-- What a listing asks and gives. A lookup comes first exactly when a criterion is set; it decides
whether the page is asked for, and of which offers. -/
inductive Lists {α : Type} (offer : Option Offer.Filter)
    (query : Correlation → Except Fault (Option Select)) (page : Statement → Conduct (List α)) :
    Conduct (List α)
  | unset {select : Select} {statement : Statement} {exchanges : List Exchange}
      {result : Except Failure (List α)}
      (unset : ¬SetsCriterion offer) (query_eq : query .unfiltered = .ok (some select))
      (paged : page statement exchanges result) (sent : select.SentAs statement) :
      Lists offer query page exchanges result
  | failed {lookup : Select} {statement : Statement} {exchanges : List Exchange} {failure : Failure}
      (set : SetsCriterion offer) (asked : idSelect offer = .ok (some lookup))
      (fetched : Fetches statement Row.id exchanges (.error failure))
      (sent : lookup.SentAs statement) : Lists offer query page exchanges (.error failure)
  | none {lookup : Select} {statement : Statement} {exchanges : List Exchange}
      (set : SetsCriterion offer) (asked : idSelect offer = .ok (some lookup))
      (fetched : Fetches statement Row.id exchanges (.ok [])) (sent : lookup.SentAs statement) :
      Lists offer query page exchanges (.ok [])
  | some {lookup select : Select} {lookupStatement statement : Statement}
      {found exchanges : List Exchange} {ids : List Int64} {result : Except Failure (List α)}
      (set : SetsCriterion offer) (asked : idSelect offer = .ok (some lookup))
      (fetched : Fetches lookupStatement Row.id found (.ok ids)) (ids_ne : ids ≠ [])
      (query_eq : query (.matched ids) = .ok (some select))
      (paged : page statement exchanges result) (lookup_sent : lookup.SentAs lookupStatement)
      (sent : select.SentAs statement) :
      Lists offer query page (found ++ exchanges) result

theorem listing_meets {α : Type} (offer : Option Offer.Filter)
    {query : Correlation → Except Fault (Option Select)} {membership : String}
    {own : Option (List Int64)} (hquery : Obeys query membership own)
    {page : Select → Work (List α)} {conduct : Statement → Conduct (List α)}
    (hpage : ∀ select, Meets (page select) (conduct select.statement)) :
    Meets (listing offer query page) (Lists offer query conduct) := by
  have hrest (correlation : Correlation) : Meets (do
      match ← built (query correlation) with
      | none => return []
      | some select => page select) (fun exchanges result =>
        (correlation = .noMatch ∧ exchanges = [] ∧ result = .ok []) ∨
          ∃ select, query correlation = .ok (some select) ∧
            conduct select.statement exchanges result) := by
    cases correlation with
    | noMatch =>
      rw [hquery.noMatch]
      exact (Meets.pure []).mono fun _ _ h => .inl ⟨rfl, h⟩
    | unfiltered =>
      obtain ⟨select, hselect, -⟩ := hquery.unfiltered
      rw [hselect]
      exact (hpage select).mono fun _ _ h => .inr ⟨select, rfl, h⟩
    | matched ids =>
      obtain ⟨select, hselect, -⟩ := hquery.matched ids
      rw [hselect]
      exact (hpage select).mono fun _ _ h => .inr ⟨select, rfl, h⟩
  refine ((correlate_meets offer).bind hrest).mono ?_
  rintro exchanges result (⟨failure, hcorrelated, rfl⟩ |
    ⟨correlation, found, after, hcorrelated, hpaged, rfl⟩)
  · cases hcorrelated with
    | failed hset hasked hfetched hsent => exact .failed hset hasked hfetched hsent
  · cases hcorrelated with
    | unset hunset =>
      obtain ⟨hnone, -⟩ | ⟨select, hselect, hpage⟩ := hpaged
      · cases hnone
      · exact .unset hunset hselect hpage select.sentAs
    | @found lookup _ _ ids hset hasked hfetched hsent =>
      cases ids with
      | nil =>
        obtain ⟨-, rfl, rfl⟩ | ⟨select, hselect, -⟩ := hpaged
        · rw [List.append_nil]
          exact .none hset hasked hfetched hsent
        · cases hquery.noMatch.symm.trans hselect
      | cons id ids =>
        obtain ⟨hnone, -⟩ | ⟨select, hselect, hpage⟩ := hpaged
        · cases hnone
        · exact .some hset hasked hfetched (List.cons_ne_nil id ids) hselect hpage hsent select.sentAs

/-- Asks for rows and converts each of them, or fails as a whole. -/
inductive Pages {α : Type} (convert : Row → Except Failure α) (statement : Statement) :
    Conduct (List α)
  | refused (e : StoreError) :
      Pages convert statement [⟨.data statement, .error e⟩] (.error (.database e))
  | complete {reply : Reply} {elements : List α}
      (all : List.Forall₂ (fun row a => convert row = .ok a) reply.rows elements) :
      Pages convert statement [⟨.data statement, .ok reply⟩] (.ok elements)
  | broken {reply : Reply} {row : Row} {failure : Failure} (mem : row ∈ reply.rows)
      (unconverted : convert row = .error failure) :
      Pages convert statement [⟨.data statement, .ok reply⟩] (.error failure)

def converting {α β : Type} (read : Row → Except StoreError β) (convert : β → Except Failure α)
    (row : Row) : Except Failure α :=
  (read row).mapError .database >>= convert

theorem forall₂_converting {α β : Type} {read : Row → Except StoreError β}
    {convert : β → Except Failure α} {rows : List Row} {values : List β} {elements : List α}
    (hread : List.Forall₂ (fun row b => read row = .ok b) rows values)
    (hconvert : List.Forall₂ (fun b a => convert b = .ok a) values elements) :
    List.Forall₂ (fun row a => converting read convert row = .ok a) rows elements := by
  induction hread generalizing elements with
  | nil =>
    cases hconvert
    exact .nil
  | cons hrow _ ih =>
    cases hconvert with
    | cons hvalue hvalues =>
      refine .cons ?_ (ih hvalues)
      rw [converting, hrow]
      exact hvalue

inductive Converts {α β : Type} (read : Row → Except StoreError β)
    (convert : β → Except Failure α) (statement : Statement) : Conduct (List α)
  | unread {exchanges : List Exchange} {failure : Failure}
      (fetched : Fetches statement read exchanges (.error failure)) :
      Converts read convert statement exchanges (.error failure)
  | converted {exchanges : List Exchange} {values : List β}
      (fetched : Fetches statement read exchanges (.ok values)) :
      Converts read convert statement exchanges (values.mapM convert)

theorem page_converts {α β : Type} (read : Row → Except StoreError β)
    (convert : β → Except Failure α) (select : Select) :
    Meets (fetch select read >>= fun rows => check (rows.mapM convert))
      (Converts read convert select.statement) := by
  refine ((fetch_meets select read).bind fun rows => Meets.check _).mono ?_
  rintro exchanges result (⟨failure, hfetched, rfl⟩ | ⟨values, _, _, hfetched, ⟨rfl, rfl⟩, rfl⟩)
  · exact .unread hfetched
  · rw [List.append_nil]
    exact .converted hfetched

theorem Converts.pages {α β : Type} {read : Row → Except StoreError β}
    {convert : β → Except Failure α} {statement : Statement} {exchanges : List Exchange}
    {result : Except Failure (List α)} (h : Converts read convert statement exchanges result) :
    Pages (converting read convert) statement exchanges result := by
  cases h with
  | unread hfetched =>
    cases hfetched with
    | refused e => exact .refused e
    | unreadable hmem hunread => exact .broken hmem (by rw [converting, hunread]; rfl)
  | @converted _ values hfetched =>
    cases hfetched with
    | read hall =>
      obtain ⟨elements, helements, hconverted⟩ | ⟨value, hmem, failure, hvalue, hfailed⟩ :=
        mapM_cases convert values
      · rw [helements]
        exact .complete (forall₂_converting hall hconverted)
      · rw [hfailed]
        obtain ⟨row, hrow, hread⟩ := exists_of_forall₂ hall hmem
        exact .broken hrow (by rw [converting, hread]; exact hvalue)

theorem page_meets {α β : Type} (read : Row → Except StoreError β)
    (convert : β → Except Failure α) (select : Select) :
    Meets (fetch select read >>= fun rows => check (rows.mapM convert))
      (Pages (converting read convert) select.statement) :=
  (page_converts read convert select).mono fun _ _ h => h.pages

def linkLookup (rows : List Trip.DetailedRow) : Statement :=
  ⟨Sql.selectTripOfferDetails, [.ints (rows.map (·.trip.id))]⟩

/-- Asks for rows, then for the links of all of them unless there is none, and converts each row
with its links, or fails as a whole. -/
inductive DetailedPages (statement : Statement) : Conduct (List Trip.Detailed)
  | unread {exchanges : List Exchange} {failure : Failure}
      (fetched : Fetches statement Trip.DetailedRow.ofRow exchanges (.error failure)) :
      DetailedPages statement exchanges (.error failure)
  | empty {exchanges : List Exchange}
      (fetched : Fetches statement Trip.DetailedRow.ofRow exchanges (.ok [])) :
      DetailedPages statement exchanges (.ok [])
  | unlinked {page links : List Exchange} {rows : List Trip.DetailedRow} {failure : Failure}
      (fetched : Fetches statement Trip.DetailedRow.ofRow page (.ok rows)) (rows_ne : rows ≠ [])
      (linked : Fetches (linkLookup rows) Trip.OfferDetail.ofRow links (.error failure)) :
      DetailedPages statement (page ++ links) (.error failure)
  | complete {page links : List Exchange} {rows : List Trip.DetailedRow}
      {details : List Trip.OfferDetail} {elements : List Trip.Detailed}
      (fetched : Fetches statement Trip.DetailedRow.ofRow page (.ok rows)) (rows_ne : rows ≠ [])
      (linked : Fetches (linkLookup rows) Trip.OfferDetail.ofRow links (.ok details))
      (all : List.Forall₂ (fun row d => row.detailed d.offers = .ok d) rows elements) :
      DetailedPages statement (page ++ links) (.ok elements)
  | broken {page links : List Exchange} {rows : List Trip.DetailedRow}
      {details : List Trip.OfferDetail} {row : Trip.DetailedRow} {failure : Failure}
      (fetched : Fetches statement Trip.DetailedRow.ofRow page (.ok rows)) (mem : row ∈ rows)
      (linked : Fetches (linkLookup rows) Trip.OfferDetail.ofRow links (.ok details))
      (unconverted : ∀ offers, row.detailed offers = .error failure) :
      DetailedPages statement (page ++ links) (.error failure)

theorem detailed_offers {row : Trip.DetailedRow} {offers : List Trip.OfferDetail}
    {d : Trip.Detailed} (h : row.detailed offers = .ok d) : d.offers = offers := by
  rw [Trip.DetailedRow.detailed] at h
  cases htrip : row.trip.trip with
  | error failure =>
    rw [htrip] at h
    cases h
  | ok trip =>
    rw [htrip] at h
    cases h
    rfl

theorem detailed_error {row : Trip.DetailedRow} {offers : List Trip.OfferDetail}
    {failure : Failure} (h : row.detailed offers = .error failure)
    (offers' : List Trip.OfferDetail) :
    row.detailed offers' = .error failure := by
  rw [Trip.DetailedRow.detailed] at h ⊢
  cases htrip : row.trip.trip with
  | error e =>
    rw [htrip] at h
    exact h
  | ok trip =>
    rw [htrip] at h
    cases h

/-- All rows are converted, each in its place, or one of them is to blame. -/
theorem nest_cases (links : List Trip.OfferDetail) (seen : List Int64)
    (rows : List Trip.DetailedRow) :
    (∃ elements, nest links seen rows = .ok elements ∧
      List.Forall₂ (fun row d => row.detailed d.offers = .ok d) rows elements) ∨
      ∃ row ∈ rows, ∃ failure, (∀ offers, row.detailed offers = .error failure) ∧
        nest links seen rows = .error failure := by
  induction rows generalizing seen with
  | nil => exact .inl ⟨[], rfl, .nil⟩
  | cons row rows ih =>
    rw [nest]
    generalize (if row.trip.id ∈ seen then [] else links.filter (·.tripId = row.trip.id)) = offers
    cases hrow : row.detailed offers with
    | error failure => exact .inr ⟨row, List.mem_cons_self, failure, detailed_error hrow, rfl⟩
    | ok d =>
      obtain ⟨elements, helements, hall⟩ | ⟨row', hmem, failure, hrow', hfailed⟩ :=
        ih (row.trip.id :: seen)
      · refine .inl ⟨d :: elements, by rw [helements]; rfl, .cons ?_ hall⟩
        rw [detailed_offers hrow]
        exact hrow
      · exact .inr ⟨row', List.mem_cons_of_mem row hmem, failure, hrow', by rw [hfailed]; rfl⟩

def detailedPage (select : Select) : Work (List Trip.Detailed) := do
  let rows ← fetch select Trip.DetailedRow.ofRow
  if rows.isEmpty then return []
  let reply ← ask .database Sql.selectTripOfferDetails [.ints (rows.map (·.trip.id))]
  let links ← decode .database (reply.rows.mapM Trip.OfferDetail.ofRow)
  check (nest links [] rows)

def Linked (rows : List Trip.DetailedRow) : Conduct (List Trip.Detailed) :=
  if rows = [] then .still (.ok [])
  else Conduct.then (Fetches (linkLookup rows) Trip.OfferDetail.ofRow) fun links =>
    .still (nest links [] rows)

/-- Asks for rows, then for the links of all of them unless there is none, and nests the links in
the rows. -/
inductive NestedPages (statement : Statement) : Conduct (List Trip.Detailed)
  | unread {exchanges : List Exchange} {failure : Failure}
      (fetched : Fetches statement Trip.DetailedRow.ofRow exchanges (.error failure)) :
      NestedPages statement exchanges (.error failure)
  | empty {exchanges : List Exchange}
      (fetched : Fetches statement Trip.DetailedRow.ofRow exchanges (.ok [])) :
      NestedPages statement exchanges (.ok [])
  | unlinked {page links : List Exchange} {rows : List Trip.DetailedRow} {failure : Failure}
      (fetched : Fetches statement Trip.DetailedRow.ofRow page (.ok rows)) (rows_ne : rows ≠ [])
      (linked : Fetches (linkLookup rows) Trip.OfferDetail.ofRow links (.error failure)) :
      NestedPages statement (page ++ links) (.error failure)
  | nested {page links : List Exchange} {rows : List Trip.DetailedRow}
      {details : List Trip.OfferDetail}
      (fetched : Fetches statement Trip.DetailedRow.ofRow page (.ok rows)) (rows_ne : rows ≠ [])
      (linked : Fetches (linkLookup rows) Trip.OfferDetail.ofRow links (.ok details)) :
      NestedPages statement (page ++ links) (nest details [] rows)

theorem detailedPage_nests (select : Select) :
    Meets (detailedPage select) (NestedPages select.statement) := by
  have hrest (rows : List Trip.DetailedRow) : Meets (do
      if rows.isEmpty then return []
      let reply ← ask .database Sql.selectTripOfferDetails [.ints (rows.map (·.trip.id))]
      let links ← decode .database (reply.rows.mapM Trip.OfferDetail.ofRow)
      check (nest links [] rows)) (Linked rows) := by
    cases rows with
    | nil => exact Meets.pure []
    | cons row rows =>
      rw [Linked, if_neg (List.cons_ne_nil row rows)]
      have hlinks := readAll_meets Sql.selectTripOfferDetails
        [.ints ((row :: rows).map (·.trip.id))] Trip.OfferDetail.ofRow
      have hpage := hlinks.bind fun links => Meets.check (nest links [] (row :: rows))
      rw [bind_assoc] at hpage
      exact hpage
  refine ((fetch_meets select Trip.DetailedRow.ofRow).bind hrest).mono ?_
  rintro exchanges result (⟨failure, hfetched, rfl⟩ | ⟨rows, page, after, hfetched, hlinked, rfl⟩)
  · exact .unread hfetched
  · by_cases hrows : rows = []
    · subst hrows
      obtain ⟨rfl, rfl⟩ : after = [] ∧ result = .ok [] := by
        simpa [Linked, Conduct.still] using hlinked
      rw [List.append_nil]
      exact .empty hfetched
    · rw [Linked, if_neg hrows] at hlinked
      obtain ⟨failure, hunlinked, rfl⟩ | ⟨links, found, _, hfound, ⟨rfl, rfl⟩, rfl⟩ := hlinked
      · exact .unlinked hfetched hrows hunlinked
      · rw [List.append_nil]
        exact .nested hfetched hrows hfound

theorem NestedPages.detailed {statement : Statement} {exchanges : List Exchange}
    {result : Except Failure (List Trip.Detailed)} (h : NestedPages statement exchanges result) :
    DetailedPages statement exchanges result := by
  cases h with
  | unread hfetched => exact .unread hfetched
  | empty hfetched => exact .empty hfetched
  | unlinked hfetched hrows hunlinked => exact .unlinked hfetched hrows hunlinked
  | @nested _ _ rows links hfetched hrows hfound =>
    obtain ⟨elements, helements, hall⟩ | ⟨row, hmem, failure, hrow, hfailed⟩ :=
      nest_cases links [] rows
    · rw [helements]
      exact .complete hfetched hrows hfound hall
    · rw [hfailed]
      exact .broken hfetched hmem hfound hrow

theorem detailedPage_meets (select : Select) :
    Meets (detailedPage select) (DetailedPages select.statement) :=
  (detailedPage_nests select).mono fun _ _ h => h.detailed

def sampleOf (row : Telemetry.SampleRow) : Except Failure Telemetry.Sample :=
  row.sample.mapError .decode

theorem samples_eq (rows : List Telemetry.SampleRow) :
    (rows.mapM Telemetry.SampleRow.sample).mapError Failure.decode = rows.mapM sampleOf := by
  induction rows with
  | nil => rfl
  | cons row rows ih =>
    rw [List.mapM_cons, List.mapM_cons, ← ih, sampleOf]
    cases row.sample with
    | error e => rfl
    | ok sample => cases rows.mapM Telemetry.SampleRow.sample <;> rfl

theorem samplePage_meets (select : Select) :
    Meets (fetch select Telemetry.SampleRow.ofRow >>= fun rows =>
        check ((rows.mapM Telemetry.SampleRow.sample).mapError Failure.decode))
      (Pages (converting Telemetry.SampleRow.ofRow sampleOf) select.statement) := by
  simp only [samples_eq]
  exact page_meets _ sampleOf select

section Listings

variable (limits : Limits)

theorem plain_obeys (filter : Trip.Filter) :
    Obeys (fun r => Trip.select filter r limits none) Trip.membership none :=
  Trip.select_obeys filter limits nofun

theorem detailed_obeys (filter : Trip.Filter) :
    Obeys (fun r => Trip.select filter r limits (some Sql.tripDetailColumns)) Trip.membership
      none := by
  refine Trip.select_obeys filter limits ?_
  rintro _ ⟨⟩
  exact not_mem_columns.2.1

theorem listTrips_meets (filter : Trip.Filter) :
    Meets (listTrips limits filter)
      (Lists filter.offer (fun r => Trip.select filter r limits none)
        (Pages (converting Trip.TripRow.ofRow Trip.TripRow.trip))) :=
  listing_meets filter.offer (plain_obeys limits filter) (page_meets _ _)

theorem listDetailed_meets (filter : Trip.Filter) :
    Meets (listDetailed limits filter)
      (Lists filter.offer (fun r => Trip.select filter r limits (some Sql.tripDetailColumns))
        DetailedPages) :=
  listing_meets filter.offer (detailed_obeys limits filter) detailedPage_meets

theorem listTelemetry_meets (filter : Telemetry.Filter) :
    Meets (listTelemetry limits filter)
      (Lists filter.offer (fun r => Telemetry.select filter r limits)
        (Pages (converting Telemetry.SampleRow.ofRow sampleOf))) :=
  listing_meets filter.offer (Telemetry.select_obeys filter limits) samplePage_meets

theorem lastPositions_meets (selector : Telemetry.Selector) :
    Meets (lastPositions selector)
      (Lists selector.offer (Telemetry.lastPositionSelect selector)
        (Pages (converting Telemetry.SampleRow.ofRow sampleOf))) :=
  listing_meets selector.offer (Telemetry.lastPositionSelect_obeys selector) samplePage_meets

end Listings

end Service

end FleetTrail
