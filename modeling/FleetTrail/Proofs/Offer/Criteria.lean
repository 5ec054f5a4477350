import FleetTrail.Proofs.Offer.Correlation
import FleetTrail.Proofs.Query.Criteria

/-!
# Which offers a filter keeps

The clause of an offer filter keeps the live offers that meet every criterion it sets. Nothing is
asked but the guard exactly when the filter is empty, and then there is no lookup.
-/

namespace FleetTrail

open Sql Query Offer

/-- The offer of a row belongs to a company as the role means it: its owner for a shipper, the one
that executes it for a carrier. Without a role it is the owner when another company is said to
execute the offer, and otherwise either of the two. -/
structure Offer.OfCompany (row : Row) (f : Offer.Filter) (n : Int64) : Prop where
  shipper : f.role = some .shipper → row "o" "company_id" = some (.int n)
  carrier : f.role = some .carrier → row "o" "exec_company_id" = some (.int n)
  owner : f.role = none → f.execCompanyId ≠ none → row "o" "company_id" = some (.int n)
  either : f.role = none → f.execCompanyId = none →
    row "o" "company_id" = some (.int n) ∨ row "o" "exec_company_id" = some (.int n)

/-- The offer of a row is not deleted and meets every criterion of a filter. -/
structure Offer.Filter.Passes (given : Given) (row : Row) (f : Offer.Filter) : Prop where
  live : row "o" "deleted" = some (.bool false)
  companyId : ∀ n ∈ f.companyId, OfCompany row f n
  execCompanyId : ∀ n ∈ f.execCompanyId, row "o" "exec_company_id" = some (.int n)
  country : ∀ s ∈ f.country,
    row "o" "from_country" = some (.text s) ∨ row "o" "to_country" = some (.text s)
  fromCountry : ∀ s ∈ f.fromCountry, row "o" "from_country" = some (.text s)
  toCountry : ∀ s ∈ f.toCountry, row "o" "to_country" = some (.text s)
  state : ∀ s ∈ f.state, row "o" "status" = some (.text s)
  address : Mentions given [row "o" "from_address", row "o" "to_address"] f.address
  validFrom : ∀ t ∈ f.validFrom, Since (row "o" "valid_until") t
  validTo : ∀ t ∈ f.validTo, Until (row "o" "valid_until") t
  deliveryFrom : ∀ t ∈ f.deliveryFrom, Since (row "o" "delivery_date") t
  deliveryTo : ∀ t ∈ f.deliveryTo, Until (row "o" "delivery_date") t
  costMin : ∀ x ∈ f.costMin, NotBelow (row "o" "cost") x
  costMax : ∀ x ∈ f.costMax, NotAbove (row "o" "cost") x
  priceMin : ∀ x ∈ f.priceMin, NotBelow (row "o" "price") x
  priceMax : ∀ x ∈ f.priceMax, NotAbove (row "o" "price") x
  search : Mentions given [row "o" "title", row "o" "from_address", row "o" "to_address",
    row "d" "name", row "v" "plate_number"] f.search

private theorem ofCompany_iff {row : Row} {f : Offer.Filter} {n : Int64} :
    OfCompany row f n ↔
      (f.role = some .shipper → row "o" "company_id" = some (.int n)) ∧
      (f.role = some .carrier → row "o" "exec_company_id" = some (.int n)) ∧
      (f.role = none → f.execCompanyId ≠ none → row "o" "company_id" = some (.int n)) ∧
      (f.role = none → f.execCompanyId = none →
        row "o" "company_id" = some (.int n) ∨ row "o" "exec_company_id" = some (.int n)) := by
  constructor
  · intro h
    exact ⟨h.shipper, h.carrier, h.owner, h.either⟩
  · intro h
    exact ⟨h.1, h.2.1, h.2.2.1, h.2.2.2⟩

private theorem company_means (f : Offer.Filter) :
    (companyCall f).Means fun _ row => ∀ n ∈ f.companyId, OfCompany row f n := by
  have howner : Names "o.company_id" ⟨"o", "company_id"⟩ := rfl
  have hexec : Names "o.exec_company_id" ⟨"o", "exec_company_id"⟩ := rfl
  have hboth : List.Forall₂ Names ["o.company_id", "o.exec_company_id"]
      [⟨"o", "company_id"⟩, ⟨"o", "exec_company_id"⟩] := .cons howner (.cons hexec .nil)
  rw [companyCall]
  -- the columns that are compared are the ones that the role and the executing company leave
  split
  case h_1 hrole =>
    apply (equal_value howner exact_int f.companyId).congr
    simp [ofCompany_iff, hrole]
  case h_2 hrole =>
    apply (equal_value hexec exact_int f.companyId).congr
    simp [ofCompany_iff, hrole]
  case h_3 hrole hnone =>
    apply (equalAny_value hboth (List.cons_ne_nil _ _) exact_int f.companyId).congr
    simp [ofCompany_iff, hrole, hnone]
  case h_4 hrole hsome =>
    apply (equal_value howner exact_int f.companyId).congr
    simp [ofCompany_iff, hrole, hsome]

theorem Offer.Filter.calls_mean (f : Offer.Filter) :
    CallsMean f.calls fun given row => f.Passes given row := by
  have hexec : Names "o.exec_company_id" ⟨"o", "exec_company_id"⟩ := rfl
  have hfromCountry : Names "o.from_country" ⟨"o", "from_country"⟩ := rfl
  have htoCountry : Names "o.to_country" ⟨"o", "to_country"⟩ := rfl
  have hstatus : Names "o.status" ⟨"o", "status"⟩ := rfl
  have hfromAddress : Names "o.from_address" ⟨"o", "from_address"⟩ := rfl
  have htoAddress : Names "o.to_address" ⟨"o", "to_address"⟩ := rfl
  have hvalid : Names "o.valid_until" ⟨"o", "valid_until"⟩ := rfl
  have hdelivery : Names "o.delivery_date" ⟨"o", "delivery_date"⟩ := rfl
  have hcost : Names "o.cost" ⟨"o", "cost"⟩ := rfl
  have hprice : Names "o.price" ⟨"o", "price"⟩ := rfl
  have htitle : Names "o.title" ⟨"o", "title"⟩ := rfl
  have hdriverName : Names "d.name" ⟨"d", "name"⟩ := rfl
  have hplate : Names "v.plate_number" ⟨"v", "plate_number"⟩ := rfl
  refine ⟨_, .cons (unset_means (c := ⟨"o", "deleted"⟩) rfl) <| .cons (company_means f) <|
    .cons (equal_value hexec exact_int f.execCompanyId) <|
    .cons (equalAny_value (.cons hfromCountry <| .cons htoCountry .nil) (List.cons_ne_nil _ _)
      exact_text f.country) <|
    .cons (equal_value hfromCountry exact_text f.fromCountry) <|
    .cons (equal_value htoCountry exact_text f.toCountry) <|
    .cons (equal_value hstatus exact_text f.state) <|
    .cons (contains_mentions (.cons hfromAddress <| .cons htoAddress .nil) (List.cons_ne_nil _ _)
      f.address) <|
    .cons (range_times hvalid f.validFrom f.validTo) <|
    .cons (range_times hdelivery f.deliveryFrom f.deliveryTo) <|
    .cons (range_floats hcost f.costMin f.costMax) <|
    .cons (range_floats hprice f.priceMin f.priceMax) <|
    .cons (search_mentions (.cons htitle <| .cons hfromAddress <| .cons htoAddress <|
      .cons hdriverName <| .cons hplate .nil) (List.cons_ne_nil _ _) f.search)
    .nil, fun given row => ?_⟩
  simp only [List.forall_mem_cons]
  constructor
  · intro h
    obtain ⟨live, companyId, execCompanyId, country, fromCountry, toCountry, state, address, valid,
      delivery, cost, price, search, -⟩ := h
    exact ⟨live, companyId, execCompanyId, by simpa using country, fromCountry, toCountry, state,
      address, valid.1, valid.2, delivery.1, delivery.2, cost.1, cost.2, price.1, price.2, search⟩
  · intro h
    exact ⟨h.live, h.companyId, h.execCompanyId, by simpa using h.country, h.fromCountry,
      h.toCountry, h.state, h.address, ⟨h.validFrom, h.validTo⟩, ⟨h.deliveryFrom, h.deliveryTo⟩,
      ⟨h.costMin, h.costMax⟩, ⟨h.priceMin, h.priceMax⟩, h.search, fun _ hmem => nomatch hmem⟩

private theorem companyCall_unguarded (f : Offer.Filter) :
    (companyCall f).stage? ≠ some .guard := by
  rw [companyCall]
  split <;> simp [Call.stage?]

theorem Offer.Filter.calls_unguarded (f : Offer.Filter) :
    ∀ call ∈ f.calls.tail, call.stage? ≠ some .guard := by
  rw [Offer.Filter.calls, List.tail_cons, List.forall_mem_cons]
  refine ⟨companyCall_unguarded f, ?_⟩
  simp [Call.stage?]

namespace Query

private theorem Builder.guards_add {b b' : Builder} {p : Part} (h : b.add p = .ok b') :
    b'.guards = b.guards + p.guards := by
  obtain ⟨text, -, rfl⟩ := Builder.add_eq_ok_iff.mp h
  rfl

private theorem Builder.guards_run {b b' : Builder} {calls : List Call}
    (hcalls : ∀ call ∈ calls, call.stage? ≠ some .guard)
    (h : calls.foldlM Builder.apply b = .ok b') : b'.guards = b.guards := by
  have hparts : ∀ call ∈ calls, ∀ c c' : Builder, c.guards = b.guards → c.apply call = .ok c' →
      c'.guards = b.guards := by
    intro call hmem c c' hc happly
    obtain ⟨stage, hparts⟩ := Builder.apply_eq_ok happly
    have hentered : Builder.guards { c with stage } = b.guards := hc
    refine Builder.foldlM_keeps (P := fun d => d.guards = b.guards) ?_ hentered hparts
    intro p hp d d' hd hadd
    rw [Builder.guards_add hadd, Call.guards_of_mem_parts p hp, if_neg (hcalls call hmem)]
    exact hd
  exact Builder.foldlM_keeps (P := fun c => c.guards = b.guards) hparts rfl h

/-- Behind its one guard, a clause counts its fragments. -/
theorem compile_guarded {fragment : String} {calls : List Call}
    (h : Orderly (.guard fragment :: calls))
    (hcalls : ∀ call ∈ calls, call.stage? ≠ some .guard) :
    ∃ c rest, compile (.guard fragment :: calls) = .ok c ∧ c.filterCount = rest.length ∧
      c.clause = "WHERE " ++ String.intercalate " AND " (fragment :: rest) := by
  obtain ⟨b, hrun, -⟩ := h.run
  obtain ⟨b₁, hguard, hrest⟩ := Builder.foldlM_cons_ok hrun
  have hfirst :
      (Builder.startingAt 1).apply (.guard fragment) = .ok ⟨[fragment], [], 1, .guard, 1⟩ := rfl
  cases hfirst.symm.trans hguard
  have hguards := Builder.guards_run hcalls hrest
  obtain ⟨rest, values, hgrows⟩ := Builder.run_grows
    (fun call hmem => (h.plain call (List.mem_cons_of_mem _ hmem)).wellMarked) hrest
  have hfragments : b.fragments = fragment :: rest := hgrows.fragments_eq
  refine ⟨b.build, rest, by rw [compile, hrun]; rfl, ?_, ?_⟩
  · simp [Builder.build, Builder.filterCount, hfragments, hguards]
  · simp [Builder.build, hfragments]

private theorem intercalate_eq_iff (first : String) (rest : List String) :
    "WHERE " ++ String.intercalate " AND " (first :: rest) = "WHERE " ++ first ↔ rest = [] := by
  constructor
  · intro h
    cases rest with
    | nil => rfl
    | cons second rest =>
      have hlists := congrArg String.toList h
      simp [String.toList_append, String.toList_intercalate, List.intercalate] at hlists
  · intro h
    simp [h]

end Query

/-- The clause of every offer filter is completed and keeps exactly the live offers that meet its
criteria. The filter is empty, its clause counts no criterion, the clause is its guard alone and
there is no lookup: each of these holds exactly when the others do. -/
theorem offer_clause_keeps_what_passes (f : Offer.Filter) :
    ∃ c, f.compile = .ok c ∧ c.Keeps (fun given row => f.Passes given row) ∧
      [f.isEmpty = true, c.filterCount = 0, c.clause = "WHERE o.deleted = false",
        Offer.idSelect (some f) = .ok none].TFAE := by
  obtain ⟨c, hc, hkeeps⟩ := compile_keeps f.orderly f.calls_mean
  obtain ⟨c', rest, hc', hcount, hclause⟩ := compile_guarded f.orderly f.calls_unguarded
  cases hc.symm.trans hc'
  have hempty : f.isEmpty = true ↔ c.filterCount = 0 := by
    rw [f.isEmpty_iff, compile_counts hc, ← f.conditions_eq_zero]
    rfl
  have hguard : c.filterCount = 0 ↔ c.clause = "WHERE o.deleted = false" := by
    rw [hcount, hclause, List.length_eq_zero_iff]
    exact (intercalate_eq_iff "o.deleted = false" rest).symm
  have hlookup : f.isEmpty = true ↔ Offer.idSelect (some f) = .ok none := by
    obtain ⟨hset, hunset⟩ := Offer.idSelect_eq (some f)
    have hsets : f.isEmpty = true ↔ ¬SetsCriterion (some f) := by
      simp [f.isEmpty_iff, SetsCriterion]
    rw [hsets]
    constructor
    · exact hunset
    · intro hnone hcriterion
      obtain ⟨select, hselect⟩ := hset hcriterion
      rw [hselect] at hnone
      cases hnone
  refine ⟨c, hc, hkeeps, ?_⟩
  tfae_have 1 ↔ 2 := hempty
  tfae_have 2 ↔ 3 := hguard
  tfae_have 1 ↔ 4 := hlookup
  tfae_finish

end FleetTrail
