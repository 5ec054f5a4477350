import FleetTrail.Proofs.Query.Independence
import FleetTrail.Proofs.Query.Membership
import Mathlib

/-!
# Offer criteria and the queries they restrict

A lookup of offers is put together exactly when a criterion is set. The query of a listing tests the
offers it was told to test and no others but those that the caller listed.
-/

namespace FleetTrail

open Query Offer Sql

/-- A filter sets a criterion. The role alone is none, and neither is a blank term. -/
def Offer.SetsCriterion (filter : Option Offer.Filter) : Prop := ∃ f ∈ filter, true ∈ f.criteria

namespace Query

def Call.conditions (call : Call) : Nat := (call.parts.map fun p => 1 - p.guards).sum

def Builder.Counts (b : Builder) (n : Nat) : Prop := b.fragments.length = b.guards + n

theorem Builder.Counts.add {b b' : Builder} {n : Nat} (h : b.Counts n) {p : Part}
    (hadd : b.add p = .ok b') : b'.Counts (n + (1 - p.guards)) := by
  obtain ⟨text, -, rfl⟩ := Builder.add_eq_ok_iff.mp hadd
  have hguards : p.guards ≤ 1 := by cases p <;> simp [Part.guards]
  simp only [Counts, List.length_append, List.length_singleton] at h ⊢
  omega

theorem Builder.Counts.run {α : Type} {f : Builder → α → Except Fault Builder} {count : α → Nat}
    (hstep : ∀ {c c' x n}, Builder.Counts c n → f c x = .ok c' → c'.Counts (n + count x))
    {xs : List α} {b b' : Builder} {n : Nat} (h : b.Counts n) (hrun : xs.foldlM f b = .ok b') :
    b'.Counts (n + (xs.map count).sum) := by
  induction xs generalizing b n with
  | nil =>
    cases hrun
    exact h
  | cons x xs ih =>
    obtain ⟨b₁, hfirst, hrest⟩ := Builder.foldlM_cons_ok hrun
    rw [List.map_cons, List.sum_cons, ← Nat.add_assoc]
    exact ih (hstep h hfirst) hrest

theorem Builder.Counts.apply {b b' : Builder} {n : Nat} (h : b.Counts n) {call : Call}
    (happly : b.apply call = .ok b') : b'.Counts (n + call.conditions) := by
  obtain ⟨stage, hparts⟩ := Builder.apply_eq_ok happly
  have hentered : Builder.Counts { b with stage } n := h
  exact hentered.run (fun hc hadd => hc.add hadd) hparts

theorem compile_counts {calls : List Call} {c : Compiled} (h : compile calls = .ok c) :
    c.filterCount = (calls.map Call.conditions).sum := by
  rw [compile] at h
  cases hrun : calls.foldlM Builder.apply (Builder.startingAt 1) with
  | error fault =>
    rw [hrun] at h
    cases h
  | ok b =>
    rw [hrun] at h
    cases h
    have hstart : (Builder.startingAt 1).Counts 0 := rfl
    have hcounts := hstart.run (fun hc happly => hc.apply happly) hrun
    have hlength : b.fragments.length = b.guards + (calls.map Call.conditions).sum := by
      rw [hcounts, Nat.zero_add]
    simp only [Builder.build, Builder.filterCount]
    omega

end Query

theorem Offer.Filter.isEmpty_iff (f : Offer.Filter) : f.isEmpty = true ↔ true ∉ f.criteria := by
  rw [isEmpty_eq, List.all_eq_true]
  constructor
  · intro h hmem
    exact absurd (h true hmem) (by decide)
  · rintro h (_ | _) hmem
    · rfl
    · exact absurd hmem h

namespace Query

section Conditions

variable (column : String) (columns : List String)

theorem conditions_guard (fragment : String) : (Call.guard fragment).conditions = 0 := rfl

theorem conditions_eq (value : Option Value) :
    (Call.eq column value).conditions = 0 ↔ value = none := by
  cases value <;> simp [Call.conditions, Call.parts, Part.guards]

theorem conditions_eqAny (value : Option Value) :
    (Call.eqAny columns value).conditions = 0 ↔ value = none := by
  cases value <;> simp [Call.conditions, Call.parts, Part.guards]

theorem conditions_range (least most : Option Value) :
    (Call.range column least most).conditions = 0 ↔ least = none ∧ most = none := by
  cases least <;> cases most <;> simp [Call.conditions, Call.parts, Part.guards]

theorem conditions_term (term : Option String) :
    ((likePattern term).map fun pattern =>
      Part.shared (likeFragment columns) (.text pattern)).toList = [] ↔
      Offer.Filter.blankTerm term = true := by
  have hsome := likePattern_isSome term
  cases hpattern : likePattern term <;> simp_all

theorem conditions_contains (term : Option String) :
    (Call.contains columns term).conditions = 0 ↔ Offer.Filter.blankTerm term = true := by
  rw [← conditions_term columns term, Call.conditions, Call.parts]
  cases likePattern term <;> simp [Part.guards]

theorem conditions_search (term : Option String) :
    (Call.search columns term).conditions = 0 ↔ Offer.Filter.blankTerm term = true :=
  conditions_contains columns term

end Conditions

end Query

theorem Offer.conditions_company (f : Offer.Filter) :
    (companyCall f).conditions = 0 ↔ f.companyId = none := by
  rw [companyCall]
  split <;> simp [conditions_eq, conditions_eqAny]

theorem Offer.Filter.conditions_eq_zero (f : Offer.Filter) :
    (f.calls.map Call.conditions).sum = 0 ↔ true ∉ f.criteria := by
  simp only [Offer.Filter.calls, Offer.Filter.criteria, List.map_cons, List.map_nil, List.sum_cons,
    List.sum_nil, Nat.add_eq_zero_iff, conditions_guard, conditions_company, conditions_eq,
    conditions_eqAny, conditions_contains, conditions_search, conditions_range,
    Option.map_eq_none_iff, List.mem_cons, List.not_mem_nil, or_false, not_or, true_and, and_true,
    and_assoc]
  simp

/-- The lookup is put together when a criterion is set, and only then. -/
theorem Offer.idSelect_eq (filter : Option Offer.Filter) :
    (SetsCriterion filter → ∃ s, idSelect filter = .ok (some s)) ∧
      (¬SetsCriterion filter → idSelect filter = .ok none) := by
  cases filter with
  | none => exact ⟨fun ⟨_, hf, _⟩ => (nomatch hf), fun _ => rfl⟩
  | some f =>
    have hsets : SetsCriterion (some f) ↔ true ∈ f.criteria := by simp [SetsCriterion]
    rw [hsets]
    constructor
    · intro hset
      obtain ⟨b, hrun, -⟩ := f.orderly.run
      have hc : f.compile = .ok b.build := by
        rw [Offer.Filter.compile, compile, hrun]
        rfl
      have hcount : b.build.filterCount ≠ 0 := by
        rw [compile_counts hc, ne_eq, Offer.Filter.conditions_eq_zero]
        exact not_not_intro hset
      have hempty : ¬f.isEmpty = true := by
        rw [Offer.Filter.isEmpty_iff]
        exact not_not_intro hset
      simp only [idSelect, if_neg hempty, hc, bind, Except.bind, if_neg hcount]
      exact ⟨_, rfl⟩
    · intro hunset
      simp only [idSelect, if_pos (f.isEmpty_iff.mpr hunset)]
      rfl

namespace Query

/-- The query has the clause between texts that test nothing, and its values come first. -/
structure Select.Around (s : Select) (c : Compiled) : Prop where
  sql_eq : ∃ front back, s.sql = front ++ " " ++ c.clause ++ " " ++ back ∧
    NoTest front.toList ∧ NoTest back.toList
  args_prefix : c.args <+: s.args

theorem Order.noTest {order : Order} (h : NoTest order.column.toList) :
    NoTest order.sql.toList := by
  have hdirection : NoTest order.direction.sql.toList := by
    cases order.direction <;> decide
  have hby : NoTest "ORDER BY".toList := by decide
  have hsql : order.sql.toList =
      "ORDER BY".toList ++ ' ' :: (order.column.toList ++ ' ' :: order.direction.sql.toList) := by
    simp [Order.sql]
  rw [hsql]
  exact hby.blank (h.blank hdirection)

theorem noTest_placeholder (n : Nat) : NoTest (placeholder n) := by
  rw [← List.append_nil (placeholder n)]
  exact .prepend (not_mem_placeholder n) (by decide)

theorem Select.around_page {c : Compiled} (hlimit : c.next + 2 ≤ placeholderLimit)
    {front : String} {order : Order} (tie : String) (hfront : NoTest front.toList)
    (horder : NoTest order.column.toList) (htie : 'Y' ∉ tie.toList)
    (hcomma : tie.toList.head? = some ',') (page : Page) (notices : List Notice) :
    ∃ text d, c.limitClause page.limit page.offset = .ok (text, d) ∧
      Select.Around ⟨front ++ " " ++ d.clause ++ " " ++ order.sql ++ tie ++ text, d.args, notices⟩
        c := by
  have hok : ¬placeholderLimit < c.next + 2 := by omega
  let limit := "LIMIT " ++ String.ofList (placeholder c.next) ++ " OFFSET " ++
    String.ofList (placeholder (c.next + 1))
  have hnumbers : NoTest limit.toList := by
    simp only [limit, String.toList_append, String.toList_ofList, List.append_assoc]
    exact .prepend (by decide) (.prepend (not_mem_placeholder _)
      (.prepend (by decide) (noTest_placeholder _)))
  have hseam : (tie.toList ++ limit.toList).head? ≠ some '(' := by
    simp [List.head?_append, hcomma]
  refine ⟨limit, _, if_neg hok, ⟨front, order.sql ++ tie ++ limit, ?_, hfront, ?_⟩,
    List.prefix_append _ _⟩
  · simp only [String.append_assoc]
  · rw [String.append_assoc, String.toList_append, String.toList_append]
    exact (Order.noTest horder).append (hnumbers.prepend htie) hseam

end Query

private theorem not_mem_literal {text : String} {cs : List Char} (htext : text = String.ofList cs)
    {c : Char} (h : c ∉ cs) : c ∉ text.toList := by
  rw [htext, String.toList_ofList]
  exact h

-- The texts are compared as literals: taking a long literal apart with `toList` is slow.
set_option maxRecDepth 8192 in
theorem not_mem_columns : 'Y' ∉ Store.Sql.tripColumns.toList ∧
    'Y' ∉ Store.Sql.tripDetailColumns.toList ∧ 'Y' ∉ Store.Sql.telemetryColumns.toList := by
  refine ⟨not_mem_literal rfl ?_, not_mem_literal rfl ?_, not_mem_literal rfl ?_⟩ <;>
    decide +kernel

set_option maxRecDepth 8192 in
private theorem not_mem_tables : 'Y' ∉ Store.Sql.tripFrom.toList ∧
    'Y' ∉ Store.Sql.telemetryFrom.toList ∧ 'Y' ∉ Telemetry.entityKey.toList := by
  refine ⟨not_mem_literal rfl ?_, not_mem_literal rfl ?_, not_mem_literal rfl ?_⟩ <;>
    decide +kernel

private theorem noTest_select {columns tables : String} (hcolumns : 'Y' ∉ columns.toList)
    (htables : 'Y' ∉ tables.toList) : NoTest ("SELECT " ++ columns ++ " " ++ tables).toList := by
  refine .of_not_mem ?_
  simp only [String.toList_append, List.mem_append, not_or]
  exact ⟨⟨⟨by decide, hcolumns⟩, by decide⟩, htables⟩

theorem Trip.select_around (f : Trip.Filter) {r : Correlation} (hr : r ≠ .noMatch) (limits : Limits)
    {extra : Option String} (hextra : ∀ columns ∈ extra, 'Y' ∉ columns.toList) {c : Compiled}
    (hc : f.compile r.ids? = .ok c) (hlimit : c.next + 2 ≤ placeholderLimit) :
    ∃ s, Trip.select f r limits extra = .ok (some s) ∧ s.Around c := by
  have hkeys : Trip.sortKeys ≠ [] := by decide
  obtain ⟨order, notice, hresolve, hcolumn⟩ := Order.resolve_isOk hkeys f.orderBy f.orderDir
  have horder : NoTest order.column.toList := by
    have hall : ∀ column ∈ Trip.sortKeys.map SortKey.column, NoTest column.toList := by decide
    exact hall _ hcolumn
  obtain ⟨hplain, -⟩ := not_mem_columns
  obtain ⟨hfrom, -⟩ := not_mem_tables
  have haround (columns : String) (hcolumns : 'Y' ∉ columns.toList) :=
    Select.around_page hlimit ", t.id DESC " (noTest_select hcolumns hfrom) horder
      (by decide) rfl (Page.resolve limits f.limit f.offset) (notice.toList.map Notice.sort)
  simp only [Trip.select, if_neg hr, hc, hresolve, bind, Except.bind, pure, Except.pure]
  cases extra with
  | none =>
    obtain ⟨text, d, hd, hselect⟩ := haround _ hplain
    rw [hd]
    exact ⟨_, rfl, hselect⟩
  | some extra =>
    have hmore : 'Y' ∉ (Store.Sql.tripColumns ++ ", " ++ extra).toList := by
      simp only [String.toList_append, List.mem_append, not_or]
      exact ⟨⟨hplain, by decide⟩, hextra extra rfl⟩
    obtain ⟨text, d, hd, hselect⟩ := haround _ hmore
    rw [hd]
    exact ⟨_, rfl, hselect⟩

theorem Telemetry.select_around (f : Telemetry.Filter) {r : Correlation} (hr : r ≠ .noMatch)
    (limits : Limits) {c : Compiled} (hc : f.compile r.ids? = .ok c)
    (hlimit : c.next + 2 ≤ placeholderLimit) :
    ∃ s, Telemetry.select f r limits = .ok (some s) ∧ s.Around c := by
  have hkeys : Telemetry.sortKeys ≠ [] := by decide
  obtain ⟨order, notice, hresolve, hcolumn⟩ := Order.resolve_isOk hkeys f.orderBy f.orderDir
  have horder : NoTest order.column.toList := by
    have hall : ∀ column ∈ Telemetry.sortKeys.map SortKey.column, NoTest column.toList := by decide
    exact hall _ hcolumn
  obtain ⟨-, -, hcolumns⟩ := not_mem_columns
  obtain ⟨-, hfrom, -⟩ := not_mem_tables
  obtain ⟨text, d, hd, haround⟩ := Select.around_page hlimit ", g.id DESC "
    (noTest_select hcolumns hfrom) horder (by decide) rfl (Page.resolve limits f.limit f.offset) _
  simp only [Telemetry.select, if_neg hr, hc, hresolve, hd, bind, Except.bind, pure, Except.pure]
  exact ⟨_, rfl, haround⟩

theorem Telemetry.lastPositionSelect_around (s : Telemetry.Selector) {r : Correlation}
    (hr : r ≠ .noMatch) {c : Compiled} (hc : s.compile r.ids? = .ok c) :
    ∃ select, Telemetry.lastPositionSelect s r = .ok (some select) ∧ select.Around c := by
  obtain ⟨-, -, hcolumns⟩ := not_mem_columns
  obtain ⟨-, hfrom, hkey⟩ := not_mem_tables
  have hfront : NoTest ("SELECT DISTINCT ON (" ++ Telemetry.entityKey ++ ") " ++
      Store.Sql.telemetryColumns ++ " " ++ Store.Sql.telemetryFrom).toList := by
    refine .of_not_mem ?_
    simp only [String.toList_append, List.mem_append, not_or]
    exact ⟨⟨⟨⟨⟨by decide, hkey⟩, by decide⟩, hcolumns⟩, by decide⟩, hfrom⟩
  have hback : NoTest ("ORDER BY " ++ Telemetry.entityKey ++
      ", g.logged_at DESC, g.id DESC").toList := by
    have hby : NoTest "ORDER BY".toList := by decide
    have hlast : 'Y' ∉ (Telemetry.entityKey ++ ", g.logged_at DESC, g.id DESC").toList := by
      rw [String.toList_append]
      exact fun hmem => (List.mem_append.mp hmem).elim hkey (by decide)
    rw [String.append_assoc, String.toList_append]
    exact hby.blank (.of_not_mem hlast)
  simp only [Telemetry.lastPositionSelect, if_neg hr, hc, bind, Except.bind, pure, Except.pure]
  refine ⟨_, rfl, ⟨_, _, ?_, hfront, hback⟩, List.prefix_refl _⟩
  simp only [String.append_assoc]
  rfl

/-- The query tests its offers against the ids that are bound first. -/
def Query.Select.RestrictedTo (s : Select) (membership : String) (ids : List Int64) : Prop :=
  membership.toList <:+: s.sql.toList ∧ s.args.head? = some (.ints ids)

/-- Wherever the query tests an offer against an array, the array is the caller's own. -/
def Query.Select.OwnOffersOnly (s : Select) (own : Option (List Int64)) : Prop :=
  ∀ before after, s.sql.toList = before ++ "offer_id = ANY(".toList ++ after →
    ∃ n ids rest, own = some ids ∧ bound s.args n = some (.ints ids) ∧
      after = placeholder n ++ ')' :: rest

/-- Columns of offers are tested against the caller's own list only. -/
def Query.OwnOffers (own : Option (List Int64)) : Allowance := fun column v =>
  (¬"offer_id".toList <:+ column.toList ∧ ¬column.toList <:+ "offer_id".toList) ∨
    ∃ ids, own = some ids ∧ v = .ints ids

theorem Query.Select.Around.ownOffersOnly {s : Select} {c : Compiled} (h : s.Around c)
    {own : Option (List Int64)} (htests : Tests (Holds (OwnOffers own) c.args) c.clause.toList) :
    s.OwnOffersOnly own := by
  obtain ⟨later, hargs⟩ := h.args_prefix
  obtain ⟨front, back, hsql, hfront, hback⟩ := h.sql_eq
  have hclause := htests.mono fun column n hheld => hheld.behind later
  rw [hargs] at hclause
  have hall : Tests (Holds (OwnOffers own) s.args) s.sql.toList := by
    have htext : s.sql.toList =
        front.toList ++ ' ' :: (c.clause.toList ++ ' ' :: back.toList) := by simp [hsql]
    rw [htext]
    exact hfront.tests.blank (hclause.blank hback.tests)
  intro before after htext
  have hcut : s.sql.toList = (before ++ "offer_id = AN".toList) ++ 'Y' :: '(' :: after := by
    simp [htext]
  obtain ⟨column, n, rest, ⟨v, hv, hA⟩, hcolumn, rfl⟩ := hall _ _ hcut
  obtain ⟨hlong, hshort⟩ | ⟨ids, hown, rfl⟩ := hA
  · have hends : column.toList <:+ before ++ "offer_id".toList := by
      obtain ⟨x, hx⟩ := hcolumn
      refine ⟨x, (List.append_left_inj " = AN".toList).mp ?_⟩
      simpa using hx
    have hboth :=
      List.suffix_or_suffix_of_suffix hends (List.suffix_append before "offer_id".toList)
    exact absurd hboth (not_or.mpr ⟨hshort, hlong⟩)
  · exact ⟨n, ids, rest, hown, hv, rfl⟩

theorem Query.Select.Around.restrictedTo {s : Select} {c : Compiled} (h : s.Around c)
    {membership : String} {ids : List Int64} (htext : membership.toList <:+: c.clause.toList)
    (hargs : c.args.head? = some (.ints ids)) : s.RestrictedTo membership ids := by
  obtain ⟨later, hlater⟩ := h.args_prefix
  obtain ⟨front, back, hsql, -⟩ := h.sql_eq
  refine ⟨htext.trans ⟨front.toList ++ [' '], ' ' :: back.toList, by simp [hsql]⟩, ?_⟩
  rw [← hlater, List.head?_append, hargs]
  rfl

private theorem testsOnly_of {calls : List Call} {A : Allowance}
    (htexts : ∀ text ∈ calls.flatMap Call.texts, 'Y' ∉ text.toList)
    (harrays : ∀ call ∈ calls, ∀ v ∈ call.array?, ∀ column ∈ call.texts,
      '$' ∉ column.toList ∧ A column v) : ∀ call ∈ calls, call.TestsOnly A :=
  fun call hmem =>
    ⟨fun text htext => htexts text (List.mem_flatMap.mpr ⟨call, hmem, htext⟩), harrays call hmem⟩

-- The texts of these calls do not depend on the values, so they are checked for the filter that has
-- none.
theorem Trip.Filter.testsOnly (f : Trip.Filter) :
    ∀ call ∈ f.calls none, call.TestsOnly (OwnOffers none) := by
  refine testsOnly_of ?_ ?_
  · have hconst : (f.calls none).flatMap Call.texts =
      (({} : Trip.Filter).calls none).flatMap Call.texts := rfl
    rw [hconst]
    decide
  · simp [Filter.calls, Call.array?, Call.texts]
    exact ⟨fun _ _ => .inl (by decide), fun _ _ => .inl (by decide), fun _ _ => .inl (by decide),
      fun _ _ => .inl (by decide)⟩

theorem Telemetry.Filter.testsOnly (f : Telemetry.Filter) :
    ∀ call ∈ f.calls none, call.TestsOnly (OwnOffers f.offerIds) := by
  refine testsOnly_of ?_ ?_
  · have hconst : (f.calls none).flatMap Call.texts =
      (({} : Telemetry.Filter).calls none).flatMap Call.texts := rfl
    rw [hconst]
    decide
  · simp [Filter.calls, Call.array?, Call.texts, liveTrip, ofOffers, between, measured, oneOf,
      noneOf]
    exact ⟨fun _ _ => .inl (by decide), fun _ _ => .inl (by decide),
      fun ids hids => .inr ⟨ids, hids, rfl⟩, fun _ _ => .inl (by decide),
      fun _ _ => .inl (by decide)⟩

theorem Telemetry.Selector.testsOnly (s : Telemetry.Selector) :
    ∀ call ∈ s.calls none, call.TestsOnly (OwnOffers s.offerIds) := by
  refine testsOnly_of ?_ ?_
  · have hconst : (s.calls none).flatMap Call.texts =
      (({} : Telemetry.Selector).calls none).flatMap Call.texts := rfl
    rw [hconst]
    decide
  · simp [Selector.calls, Call.array?, Call.texts, liveTrip, ofOffers, between, oneOf]
    exact ⟨fun _ _ => .inl (by decide), fun _ _ => .inl (by decide),
      fun ids hids => .inr ⟨ids, hids, rfl⟩, fun _ _ => .inl (by decide),
      fun _ _ => .inl (by decide)⟩

/-- A query that obeys its correlation: it is restricted to the ids that were found, it is not put
together when none was found, and without a lookup it tests no offers but the caller's own. -/
structure Offer.Obeys (query : Correlation → Except Fault (Option Select)) (membership : String)
    (own : Option (List Int64)) : Prop where
  matched : ∀ ids, ∃ s, query (.matched ids) = .ok (some s) ∧ s.RestrictedTo membership ids
  noMatch : query .noMatch = .ok none
  unfiltered : ∃ s, query .unfiltered = .ok (some s) ∧ s.OwnOffersOnly own

def Trip.membership : String :=
  "t.id IN (SELECT l.trip_id FROM trip_offers l WHERE l.offer_id = ANY($1))"

def Telemetry.membership : String := "g.offer_id = ANY($1)"

theorem Trip.select_obeys (f : Trip.Filter) (limits : Limits) {extra : Option String}
    (hextra : ∀ columns ∈ extra, 'Y' ∉ columns.toList) :
    Obeys (fun r => Trip.select f r limits extra) Trip.membership none where
  matched := fun ids => by
    obtain ⟨c, text, hc, hlimit, htext, hwithin, hargs⟩ := compile_offers (f.orderly (some ids))
    obtain ⟨s, hs, haround⟩ :=
      Trip.select_around f (r := .matched ids) nofun limits hextra hc hlimit
    have hmembership : text = Trip.membership.toList :=
      text_of_marker "t.id IN (SELECT l.trip_id FROM trip_offers l WHERE l.offer_id = ANY(" "))"
        (by decide +kernel) (by decide) htext
    exact ⟨s, hs, haround.restrictedTo (hmembership ▸ hwithin) hargs⟩
  noMatch := rfl
  unfiltered := by
    obtain ⟨c, hc, hlimit, htests⟩ := compile_tests (f.orderly none) f.testsOnly
    obtain ⟨s, hs, haround⟩ :=
      Trip.select_around f (r := .unfiltered) nofun limits hextra hc hlimit
    exact ⟨s, hs, haround.ownOffersOnly htests⟩

theorem Telemetry.select_obeys (f : Telemetry.Filter) (limits : Limits) :
    Obeys (fun r => Telemetry.select f r limits) Telemetry.membership f.offerIds where
  matched := fun ids => by
    obtain ⟨c, text, hc, hlimit, htext, hwithin, hargs⟩ := compile_offers (f.orderly (some ids))
    obtain ⟨s, hs, haround⟩ := Telemetry.select_around f (r := .matched ids) nofun limits hc hlimit
    have hmembership : text = Telemetry.membership.toList :=
      text_of_marker "g.offer_id = ANY(" ")" (by decide) (by decide) htext
    exact ⟨s, hs, haround.restrictedTo (hmembership ▸ hwithin) hargs⟩
  noMatch := rfl
  unfiltered := by
    obtain ⟨c, hc, hlimit, htests⟩ := compile_tests (f.orderly none) f.testsOnly
    obtain ⟨s, hs, haround⟩ := Telemetry.select_around f (r := .unfiltered) nofun limits hc hlimit
    exact ⟨s, hs, haround.ownOffersOnly htests⟩

theorem Telemetry.lastPositionSelect_obeys (s : Telemetry.Selector) :
    Obeys (Telemetry.lastPositionSelect s) Telemetry.membership s.offerIds where
  matched := fun ids => by
    obtain ⟨c, text, hc, -, htext, hwithin, hargs⟩ := compile_offers (s.orderly (some ids))
    obtain ⟨select, hs, haround⟩ :=
      Telemetry.lastPositionSelect_around s (r := .matched ids) nofun hc
    have hmembership : text = Telemetry.membership.toList :=
      text_of_marker "g.offer_id = ANY(" ")" (by decide) (by decide) htext
    exact ⟨select, hs, haround.restrictedTo (hmembership ▸ hwithin) hargs⟩
  noMatch := rfl
  unfiltered := by
    obtain ⟨c, hc, -, htests⟩ := compile_tests (s.orderly none) s.testsOnly
    obtain ⟨select, hs, haround⟩ :=
      Telemetry.lastPositionSelect_around s (r := .unfiltered) nofun hc
    exact ⟨select, hs, haround.ownOffersOnly htests⟩

end FleetTrail
