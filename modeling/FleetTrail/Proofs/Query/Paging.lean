import FleetTrail.Config
import FleetTrail.Proofs.Query.Alignment
import FleetTrail.Proofs.Text.Blank
import FleetTrail.Telemetry.Select
import FleetTrail.Trip.Select
import Mathlib.Data.List.Forall2
import Mathlib.Data.List.Nodup

/-!
# Sorting and paging

How the query of a listing ends: in an order by a column of the whitelist, with the id to break
ties, and in a page within the configured bounds. `Order.Requested` says which order a request asks
for, in terms of its texts alone, and resolving a request finds that order and no other.
-/

namespace FleetTrail

open Query Offer

def Text.SameLetters : List Char → List Char → Prop :=
  List.Forall₂ fun c d => c.toLower = d.toLower

theorem Text.fold_eq_iff {cs ds : List Char} : fold cs = fold ds ↔ SameLetters cs ds := by
  rw [fold, fold, SameLetters, ← List.forall₂_eq_eq_eq, List.forall₂_map_left_iff,
    List.forall₂_map_right_iff]

namespace Query

/-- The same key up to case and underscores. -/
def SameKey (a b : String) : Prop :=
  Text.SameLetters (a.toList.filter (· ≠ '_')) (b.toList.filter (· ≠ '_'))

theorem normalizeKey_eq_iff {a b : String} : normalizeKey a = normalizeKey b ↔ SameKey a b :=
  Text.fold_eq_iff

/-- The direction that a text names. No text and a blank one name the descending one. -/
inductive Direction.Named : Option String → Direction → Prop
  | absent : Named none .desc
  | blank {raw : String} (blank : Text.allBlank raw = true) : Named (some raw) .desc
  /-- The word of a direction between blanks. -/
  | word {raw : String} {d : Direction} {before word after : List Char}
      (text_eq : raw.toList = before ++ word ++ after)
      (before_blank : before.all Text.isBlank = true)
      (after_blank : after.all Text.isBlank = true)
      (spelled : Text.SameLetters word d.sql.toList) : Named (some raw) d

private theorem solid_of_spelled {word : List Char} {d : Direction}
    (h : Text.SameLetters word d.sql.toList) : ∀ c ∈ word, Text.isBlank c = false := by
  intro c hc
  have hmem : c.toLower ∈ Text.fold d.sql.toList := by
    rw [← Text.fold_eq_iff.mpr h]
    exact List.mem_map_of_mem hc
  have hsolid : (Text.fold d.sql.toList).all (!Text.isBlank ·) = true := by cases d <;> rfl
  rw [← Text.isBlank_toLower]
  exact Bool.not_eq_true' _ ▸ List.all_eq_true.mp hsolid _ hmem

theorem Direction.ofText?_eq_some_iff {raw : Option String} {d : Direction} :
    Direction.ofText? raw = some d ↔ Direction.Named raw d := by
  constructor
  · intro h
    cases raw with
    | none =>
      cases h
      exact .absent
    | some text =>
      obtain ⟨before, after, hbefore, hafter, htext⟩ := Text.exists_trim text.toList
      rw [ofText?] at h
      split at h
      next hword =>
        cases h
        obtain hempty | hdesc := hword
        · refine .blank ((Text.trim_eq_nil_iff text.toList).mp ?_)
          exact List.map_eq_nil_iff.mp (List.isEmpty_iff.mp hempty)
        · exact .word htext hbefore hafter (Text.fold_eq_iff.mp hdesc)
      next =>
        split at h
        next hasc =>
          cases h
          exact .word htext hbefore hafter (Text.fold_eq_iff.mp hasc)
        next => cases h
  · intro h
    cases h with
    | absent => rfl
    | blank hblank =>
      have htrim := (Text.trim_eq_nil_iff _).mpr hblank
      rw [ofText?, htrim]
      rfl
    | word htext hbefore hafter hspelled =>
      rw [ofText?, htext, Text.trim_solid (solid_of_spelled hspelled) hbefore hafter,
        Text.fold_eq_iff.mpr hspelled]
      cases d <;> rfl

/-- The order that a request asks for. Where its key or its direction is not known, that is the
fallback, descending. -/
inductive Order.Requested (keys : List SortKey) (fallback : String) :
    Option String → Option String → Order → Prop
  | absent {direction : Option String} {d : Direction} (named : Direction.Named direction d) :
      Requested keys fallback none direction ⟨fallback, d⟩
  | listed {key : String} {direction : Option String} {entry : SortKey} {d : Direction}
      (mem : entry ∈ keys) (same : SameKey entry.key key)
      (only : ∀ other ∈ keys, SameKey other.key key → other = entry)
      (named : Direction.Named direction d) :
      Requested keys fallback (some key) direction ⟨entry.column, d⟩
  | unknownKey {key : String} {direction : Option String}
      (unlisted : ∀ entry ∈ keys, ¬SameKey entry.key key) :
      Requested keys fallback (some key) direction ⟨fallback, .desc⟩
  | unknownDirection {key direction : Option String}
      (unnamed : ∀ d, ¬Direction.Named direction d) :
      Requested keys fallback key direction ⟨fallback, .desc⟩

/-- The keys of a whitelist differ in more than case and underscores. -/
def Distinct (keys : List SortKey) : Prop := (keys.map fun entry => normalizeKey entry.key).Nodup

theorem Distinct.eq {keys : List SortKey} (h : Distinct keys) {entry other : SortKey}
    (hentry : entry ∈ keys) (hother : other ∈ keys) {key : String} (hsame : SameKey entry.key key)
    (hsame' : SameKey other.key key) : other = entry := by
  refine List.inj_on_of_nodup_map h hother hentry ?_
  rw [normalizeKey_eq_iff.mpr hsame, normalizeKey_eq_iff.mpr hsame']

theorem Direction.Named.unique {raw : Option String} {d d' : Direction} (h : Named raw d)
    (h' : Named raw d') : d' = d := by
  rw [← ofText?_eq_some_iff] at h h'
  exact Option.some.inj (h'.symm.trans h)

theorem Order.Requested.unique {keys : List SortKey} {fallback : String}
    {key direction : Option String} {order order' : Order}
    (h : Requested keys fallback key direction order)
    (h' : Requested keys fallback key direction order') : order' = order := by
  cases h with
  | absent named =>
    cases h' with
    | absent named' => rw [named.unique named']
    | unknownDirection unnamed => exact absurd named (unnamed _)
  | listed mem same only named =>
    cases h' with
    | listed mem' same' _ named' => rw [only _ mem' same', named.unique named']
    | unknownKey unlisted => exact absurd same (unlisted _ mem)
    | unknownDirection unnamed => exact absurd named (unnamed _)
  | unknownKey unlisted =>
    cases h' with
    | listed mem same => exact absurd same (unlisted _ mem)
    | unknownKey => rfl
    | unknownDirection => rfl
  | unknownDirection unnamed =>
    cases h' with
    | absent named => exact absurd named (unnamed _)
    | listed _ _ _ named => exact absurd named (unnamed _)
    | unknownKey => rfl
    | unknownDirection => rfl

/-- The order that a request asks for, which is the only one, by a column of the whitelist. -/
structure Order.Settles (order : Order) (keys : List SortKey) (id : String)
    (key direction : Option String) : Prop where
  requested : Order.Requested keys id key direction order
  only : ∀ other, Order.Requested keys id key direction other → other = order
  listed : order.column ∈ keys.map SortKey.column

theorem Order.resolve_settles {keys : List SortKey} {first : SortKey}
    (hfirst : keys.head? = some first) (h : Distinct keys) (key direction : Option String) :
    ∃ order notice, Order.resolve keys key direction = .ok (order, notice) ∧
      order.Settles keys first.column key direction := by
  have hmem : first ∈ keys := List.mem_of_head? hfirst
  obtain ⟨rest, rfl⟩ := List.head?_eq_some_iff.mp hfirst
  have hsettles {order : Order}
      (hrequested : Order.Requested (first :: rest) first.column key direction order)
      (hlisted : order.column ∈ (first :: rest).map SortKey.column) :
      order.Settles (first :: rest) first.column key direction :=
    ⟨hrequested, fun _ hother => hrequested.unique hother, hlisted⟩
  have hfallback : first.column ∈ (first :: rest).map SortKey.column := List.mem_map_of_mem hmem
  have hnamed (d : Direction) (hd : Direction.ofText? direction = some d) :
      Direction.Named direction d := Direction.ofText?_eq_some_iff.mp hd
  have hunnamed (hnone : Direction.ofText? direction = none) :
      ∀ d, ¬Direction.Named direction d := by
    intro d hd
    rw [← Direction.ofText?_eq_some_iff, hnone] at hd
    cases hd
  unfold Order.resolve
  cases key with
  | none =>
    refine ⟨_, _, rfl, hsettles ?_ hfallback⟩
    cases hd : Direction.ofText? direction with
    | some d => exact .absent (hnamed d hd)
    | none => exact .unknownDirection (hunnamed hd)
  | some key =>
    simp only
    cases hfind : (first :: rest).find? fun entry =>
        normalizeKey entry.key = normalizeKey key with
    | none =>
      refine ⟨_, _, rfl, hsettles (.unknownKey fun entry hentry hsame => ?_) hfallback⟩
      have hdiffers := List.find?_eq_none.mp hfind entry hentry
      exact hdiffers (decide_eq_true (normalizeKey_eq_iff.mpr hsame))
    | some entry =>
      have hentry := List.mem_of_find?_eq_some hfind
      have hfound := List.find?_some hfind
      have hsame : SameKey entry.key key := normalizeKey_eq_iff.mp (of_decide_eq_true hfound)
      cases hd : Direction.ofText? direction with
      | some d =>
        refine ⟨_, _, rfl, hsettles (.listed hentry hsame (fun other hother hsame' => ?_)
          (hnamed d hd)) (List.mem_map_of_mem hentry)⟩
        exact h.eq hentry hother hsame hsame'
      | none => exact ⟨_, _, rfl, hsettles (.unknownDirection (hunnamed hd)) hfallback⟩

/-- The page that a request gets. A limit within the configured bounds is kept. -/
structure Page.Bounded (c : Config) (limit offset : Option Int64) (page : Page) : Prop where
  limit_pos : 1 ≤ page.limit.toInt
  limit_le : page.limit.toInt ≤ max 1 c.maxLimit.toInt
  limit_kept : ∀ n ∈ limit, 1 ≤ n.toInt → n.toInt ≤ max 1 c.maxLimit.toInt → page.limit = n
  limit_cut : ∀ n ∈ limit, max 1 c.maxLimit.toInt < n.toInt →
    page.limit.toInt = max 1 c.maxLimit.toInt
  offset_eq : page.offset.toInt = max 0 ((offset.getD 0).toInt)

private theorem toInt_max (a b : Int64) : (max a b).toInt = max a.toInt b.toInt := by
  show (if a ≤ b then b else a).toInt = _
  simp only [Int64.le_iff_toInt_le]
  split <;> omega

private theorem toInt_min (a b : Int64) : (min a b).toInt = min a.toInt b.toInt := by
  show (if a ≤ b then a else b).toInt = _
  simp only [Int64.le_iff_toInt_le]
  split <;> omega

theorem Page.resolve_bounded (c : Config) (limit offset : Option Int64) :
    Page.Bounded c limit offset (Page.resolve c.limits limit offset) := by
  have hmax : c.limits.max.toInt = max 1 c.maxLimit.toInt := by
    rw [Config.limits, toInt_max, Int.max_comm]
    rfl
  have hdefault : c.limits.default.toInt =
      max 1 (min c.defaultLimit.toInt c.maxLimit.toInt) := by
    rw [Config.limits, toInt_max, toInt_min, Int.max_comm]
    rfl
  have hoffset : (Page.resolve c.limits limit offset).offset.toInt =
      max 0 ((offset.getD 0).toInt) := by
    show (max (offset.getD 0) 0).toInt = _
    rw [toInt_max, Int.max_comm]
    rfl
  cases limit with
  | none =>
    have hlimit : (Page.resolve c.limits none offset).limit = c.limits.default := rfl
    exact ⟨by rw [hlimit]; omega, by rw [hlimit]; omega, nofun, nofun, hoffset⟩
  | some n =>
    have hzero : (0 : Int64).toInt = 0 := rfl
    have hpos : 0 < n ↔ 0 < n.toInt := by rw [Int64.lt_iff_toInt_lt, hzero]
    by_cases hn : 0 < n
    · have hlimit : (Page.resolve c.limits (some n) offset).limit = min n c.limits.max := if_pos hn
      have hcut := toInt_min n c.limits.max
      rw [hpos] at hn
      refine ⟨by rw [hlimit]; omega, by rw [hlimit]; omega, ?_, ?_, hoffset⟩
      · rintro _ ⟨⟩ - hle
        rw [hlimit, ← Int64.toInt_inj]
        omega
      · rintro _ ⟨⟩ hlt
        rw [hlimit]
        omega
    · have hlimit : (Page.resolve c.limits (some n) offset).limit = c.limits.default := if_neg hn
      rw [hpos] at hn
      refine ⟨by rw [hlimit]; omega, by rw [hlimit]; omega, ?_, ?_, hoffset⟩
      · rintro _ ⟨⟩ hge
        omega
      · rintro _ ⟨⟩ hlt
        omega

def limitText (n : Nat) : String :=
  "LIMIT " ++ String.ofList (placeholder n) ++ " OFFSET " ++ String.ofList (placeholder (n + 1))

theorem Orderly.compiles {calls : List Call} (h : Orderly calls) :
    ∃ c, compile calls = .ok c ∧ c.next = c.args.length + 1 ∧ ∀ limit offset,
      c.limitClause limit offset = .ok (limitText c.next,
        { c with args := c.args ++ [.int limit, .int offset], next := c.next + 2 }) := by
  obtain ⟨b, hrun, hlimit⟩ := h.run
  obtain ⟨_, _, hgrows⟩ :=
    Builder.run_grows (fun call hmem => (h.plain call hmem).wellMarked) hrun
  have hroom : ¬placeholderLimit < b.build.next + 2 := Nat.not_lt.mpr hlimit
  refine ⟨b.build, by rw [compile, hrun]; rfl, ?_, fun limit offset => if_neg hroom⟩
  show b.next = b.args.length + 1
  rw [hgrows.next_eq, hgrows.args_eq, Nat.add_comm]
  rfl

/-- The query ends in an order, with ties broken by `id`, and in a page, whose numbers follow those
of its criteria. -/
structure Select.EndsIn (s : Select) (criteria : List Value) (order : Order) (id : String)
    (page : Page) : Prop where
  sql_eq : ∃ front, s.sql = front ++ ("ORDER BY " ++ order.column ++ " " ++ order.direction.sql ++
    ", " ++ id ++ " DESC LIMIT $" ++ Number.natText (criteria.length + 1) ++ " OFFSET $" ++
    Number.natText (criteria.length + 2))
  args_eq : s.args = criteria ++ [.int page.limit, .int page.offset]

private theorem placeholder_text (n : Nat) :
    String.ofList (placeholder n) = "$" ++ Number.natText n := by
  rw [placeholder, ← List.singleton_append, String.ofList_append]
  rfl

theorem Select.endsIn_of_sql {s : Select} (front : String) {id : String} {order : Order}
    {page : Page} {args : List Value}
    (hsql : s.sql = front ++ order.sql ++ (", " ++ id ++ " DESC ") ++ limitText (args.length + 1))
    (hargs : s.args = args ++ [.int page.limit, .int page.offset]) :
    s.EndsIn args order id page := by
  have hlimit : " DESC LIMIT $" = " DESC " ++ "LIMIT " ++ "$" := rfl
  have hoffset : " OFFSET $" = " OFFSET " ++ "$" := rfl
  refine ⟨⟨front, ?_⟩, hargs⟩
  rw [hsql]
  simp only [limitText, Order.sql, placeholder_text, hlimit, hoffset, String.append_assoc]

end Query

/-- What the query of a trip listing is put together from. Only what it selects depends on the extra
columns. -/
theorem Trip.select_eq (f : Trip.Filter) {r : Correlation} (hr : r ≠ .noMatch) (limits : Limits) :
    ∃ (c : Compiled) (order : Order) (notices : List Notice) (tail : String),
      f.compile r.ids? = .ok c ∧
      order.Settles Trip.sortKeys "t.id" f.orderBy f.orderDir ∧
      tail = " " ++ Store.Sql.tripFrom ++ " " ++ c.clause ++ " " ++ order.sql ++
        (", " ++ "t.id" ++ " DESC ") ++ limitText (c.args.length + 1) ∧
      ∀ extra, Trip.select f r limits extra = .ok (some
        ⟨"SELECT " ++ Store.Sql.tripColumns ++ (extra.map (", " ++ ·)).getD "" ++ tail,
          c.args ++ (Page.resolve limits f.limit f.offset).values, notices⟩) := by
  obtain ⟨c, hc, hnext, hlimit⟩ := (f.orderly r.ids?).compiles
  have hdistinct : Distinct Trip.sortKeys := by
    unfold Distinct
    decide
  obtain ⟨order, notice, hresolve, hsettles⟩ :=
    Order.resolve_settles rfl hdistinct f.orderBy f.orderDir
  refine ⟨c, order, notice.toList.map Notice.sort, _, hc, hsettles, rfl, fun extra => ?_⟩
  have hcompile : f.compile r.ids? = .ok c := hc
  simp only [Trip.select, if_neg hr, hcompile, hresolve, hlimit, bind, Except.bind, pure,
    Except.pure]
  cases extra <;> simp [String.append_assoc, hnext, Page.values]

theorem Telemetry.select_eq (f : Telemetry.Filter) {r : Correlation} (hr : r ≠ .noMatch)
    (limits : Limits) :
    ∃ (c : Compiled) (order : Order) (notices : List Notice) (front : String),
      f.compile r.ids? = .ok c ∧
      order.Settles Telemetry.sortKeys "g.id" f.orderBy f.orderDir ∧
      Telemetry.select f r limits = .ok (some
        ⟨front ++ order.sql ++ (", " ++ "g.id" ++ " DESC ") ++ limitText (c.args.length + 1),
          c.args ++ (Page.resolve limits f.limit f.offset).values, notices⟩) := by
  obtain ⟨c, hc, hnext, hlimit⟩ := (f.orderly r.ids?).compiles
  have hdistinct : Distinct Telemetry.sortKeys := by
    unfold Distinct
    decide
  obtain ⟨order, notice, hresolve, hsettles⟩ :=
    Order.resolve_settles rfl hdistinct f.orderBy f.orderDir
  refine ⟨c, order, notice.toList.map Notice.sort, "SELECT " ++ Store.Sql.telemetryColumns ++ " " ++
    Store.Sql.telemetryFrom ++ " " ++ c.clause ++ " ", hc, hsettles, ?_⟩
  have hcompile : f.compile r.ids? = .ok c := hc
  simp only [Telemetry.select, if_neg hr, hcompile, hresolve, hlimit, bind, Except.bind, pure,
    Except.pure]
  simp [String.append_assoc, hnext, Page.values]

/-- Whatever a request says, its listing is sorted by a column of the whitelist with ties broken by
id, in the order that it asks for, and ends in a page within the configured bounds. -/
theorem listings_end_in_bounded_page (c : Config) (r : Correlation) (hr : r ≠ .noMatch) :
    (∀ (f : Trip.Filter) (extra : Option String),
      ∃ (s : Select) (criteria : Compiled) (order : Order) (page : Page),
        Trip.select f r c.limits extra = .ok (some s) ∧ f.compile r.ids? = .ok criteria ∧
        s.EndsIn criteria.args order "t.id" page ∧
        order.Settles Trip.sortKeys "t.id" f.orderBy f.orderDir ∧
        page.Bounded c f.limit f.offset) ∧
    ∀ f : Telemetry.Filter,
      ∃ (s : Select) (criteria : Compiled) (order : Order) (page : Page),
        Telemetry.select f r c.limits = .ok (some s) ∧ f.compile r.ids? = .ok criteria ∧
        s.EndsIn criteria.args order "g.id" page ∧
        order.Settles Telemetry.sortKeys "g.id" f.orderBy f.orderDir ∧
        page.Bounded c f.limit f.offset := by
  constructor
  · intro f extra
    obtain ⟨criteria, order, notices, tail, hcriteria, hsettles, htail, hselect⟩ :=
      Trip.select_eq f hr c.limits
    refine ⟨_, criteria, order, _, hselect extra, hcriteria, ?_, hsettles,
      Page.resolve_bounded c f.limit f.offset⟩
    refine Select.endsIn_of_sql ("SELECT " ++ Store.Sql.tripColumns ++
      (extra.map (", " ++ ·)).getD "" ++ " " ++ Store.Sql.tripFrom ++ " " ++ criteria.clause ++ " ")
      ?_ rfl
    simp only [htail, String.append_assoc]
  · intro f
    obtain ⟨criteria, order, notices, front, hcriteria, hsettles, hselect⟩ :=
      Telemetry.select_eq f hr c.limits
    exact ⟨_, criteria, order, _, hselect, hcriteria, Select.endsIn_of_sql front rfl rfl, hsettles,
      Page.resolve_bounded c f.limit f.offset⟩

/-- A key and a direction in odd spellings, a limit above a maximum that lies below the default, and
a negative offset. -/
theorem listing_ends_in_cut_page :
    let c : Config := { Config.load [] with defaultLimit := 900, maxLimit := 200 }
    let f : Trip.Filter := { driverId := some 7, orderBy := some "START_date",
                             orderDir := some " aSc ", limit := some 1000, offset := some (-3) }
    ∃ s front, Trip.select f .unfiltered c.limits none = .ok (some s) ∧
      s.sql = front ++ "ORDER BY t.start_date ASC, t.id DESC LIMIT $2 OFFSET $3" ∧
      s.args = [.int 7, .int 200, .int 0] := by
  intro c f
  have hr : Correlation.unfiltered ≠ .noMatch := nofun
  obtain ⟨s, criteria, order, page, hs, hcriteria, ⟨⟨front, hsql⟩, hargs⟩, hsettles, hbounded⟩ :=
    (listings_end_in_bounded_page c .unfiltered hr).1 f none
  have hseven : criteria.args = [.int 7] := by
    have hcompiled : f.compile none = .ok ⟨_, [.int 7], 2, 1⟩ := rfl
    cases hcompiled.symm.trans hcriteria
    rfl
  have hword : " aSc ".toList = [' '] ++ "aSc".toList ++ [' '] := rfl
  have hnamed : Direction.Named (some " aSc ") .asc :=
    .word hword rfl rfl (Text.fold_eq_iff.mp (by decide))
  have hkey : SameKey "startDate" "START_date" := normalizeKey_eq_iff.mp (by decide)
  have horder : order = ⟨"t.start_date", .asc⟩ := by
    cases hsettles.requested with
    | listed hmem hsame honly hd =>
      have hentry := honly ⟨"startDate", "t.start_date"⟩ (by decide) hkey
      rw [← hentry, hnamed.unique hd]
    | unknownKey hunlisted => exact absurd hkey (hunlisted ⟨_, "t.start_date"⟩ (by decide))
    | unknownDirection hunnamed => exact absurd hnamed (hunnamed _)
  have hlimit : page.limit = 200 := by
    rw [← Int64.toInt_inj, hbounded.limit_cut 1000 rfl (by decide)]
    decide
  have hoffset : page.offset = 0 := by
    rw [← Int64.toInt_inj, hbounded.offset_eq]
    decide
  refine ⟨s, front, hs, ?_, by rw [hargs, hseven, hlimit, hoffset]; rfl⟩
  rw [hsql, horder, hseven]
  rfl

end FleetTrail
