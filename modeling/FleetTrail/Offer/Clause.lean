import FleetTrail.Offer.Filter
import FleetTrail.Query.Builder

/-!
# The clause of an offer filter

The calls that state offer criteria in SQL, over the offers `o` with their drivers `d` and
vehicles `v`.
-/

namespace FleetTrail.Offer

open Query

def searchColumns : List String :=
  ["o.title", "o.from_address", "o.to_address", "d.name", "v.plate_number"]

/-- Where a company id belongs: to the role's column when a role is given, to the owner when
another company executes, and otherwise to either of the two. -/
def companyCall (f : Filter) : Call :=
  let id := f.companyId.map Value.int
  match f.role, f.execCompanyId with
  | some .shipper, _ => .eq "o.company_id" id
  | some .carrier, _ => .eq "o.exec_company_id" id
  | none, none => .eqAny ["o.company_id", "o.exec_company_id"] id
  | none, some _ => .eq "o.company_id" id

def Filter.calls (f : Filter) : List Call :=
  [.guard "o.deleted = false",
    companyCall f,
    .eq "o.exec_company_id" (f.execCompanyId.map .int),
    .eqAny ["o.from_country", "o.to_country"] (f.country.map .text),
    .eq "o.from_country" (f.fromCountry.map .text),
    .eq "o.to_country" (f.toCountry.map .text),
    .eq "o.status" (f.state.map .text),
    .contains ["o.from_address", "o.to_address"] f.address,
    .range "o.valid_until" (f.validFrom.map .time) (f.validTo.map .time),
    .range "o.delivery_date" (f.deliveryFrom.map .time) (f.deliveryTo.map .time),
    .range "o.cost" (f.costMin.map .float) (f.costMax.map .float),
    .range "o.price" (f.priceMin.map .float) (f.priceMax.map .float),
    .search searchColumns f.search]

def Filter.compile (f : Filter) : Except Fault Compiled := Query.compile f.calls

end FleetTrail.Offer
