import FleetTrail.Json.Record
import FleetTrail.Text.Blank

/-!
# Offer criteria

What a caller may ask of the offers behind a listing. Every criterion is optional. A filter is
empty when no criterion would restrict anything; the role alone only says which company a
company id means.
-/

namespace FleetTrail.Offer

/-- Which company column a bare company id applies to. -/
inductive Role where
  /-- The owner of the offer. -/
  | shipper
  /-- The company that executes the offer. -/
  | carrier
  deriving DecidableEq, Repr

def Role.ofJson? (v : Json.Value) : Option Role :=
  match v.word? with
  | some "shipper" => some .shipper
  | some "carrier" => some .carrier
  | _ => none

structure Filter where
  companyId : Option Int64 := none
  execCompanyId : Option Int64 := none
  role : Option Role := none
  /-- The origin or the destination country. -/
  country : Option String := none
  fromCountry : Option String := none
  toCountry : Option String := none
  state : Option String := none
  /-- A part of either address. -/
  address : Option String := none
  validFrom : Option Time.Instant := none
  validTo : Option Time.Instant := none
  deliveryFrom : Option Time.Instant := none
  deliveryTo : Option Time.Instant := none
  costMin : Option Float := none
  costMax : Option Float := none
  priceMin : Option Float := none
  priceMax : Option Float := none
  search : Option String := none

namespace Filter

/-- A term that is absent or only blanks. -/
def blankTerm : Option String → Bool
  | none => true
  | some s => Text.allBlank s

/-- Whether no criterion is set. -/
def isEmpty (f : Filter) : Bool :=
  f.companyId.isNone && f.execCompanyId.isNone && f.country.isNone && f.fromCountry.isNone &&
    f.toCountry.isNone && f.state.isNone && blankTerm f.address && f.validFrom.isNone &&
    f.validTo.isNone && f.deliveryFrom.isNone && f.deliveryTo.isNone && f.costMin.isNone &&
    f.costMax.isNone && f.priceMin.isNone && f.priceMax.isNone && blankTerm f.search

private def fieldNames : List String :=
  ["companyId", "execCompanyId", "role", "country", "fromCountry", "toCountry", "state",
    "address", "validFrom", "validTo", "deliveryFrom", "deliveryTo", "costMin", "costMax",
    "priceMin", "priceMax", "search"]

open Json.Value in
def ofJson? (v : Json.Value) : Option Filter := do
  let r ← Json.Fields.sparse? fieldNames v
  return {
    companyId := ← r.optional "companyId" int64?
    execCompanyId := ← r.optional "execCompanyId" int64?
    role := ← r.optional "role" Role.ofJson?
    country := ← r.optional "country" text?
    fromCountry := ← r.optional "fromCountry" text?
    toCountry := ← r.optional "toCountry" text?
    state := ← r.optional "state" text?
    address := ← r.optional "address" text?
    validFrom := ← r.optional "validFrom" instant?
    validTo := ← r.optional "validTo" instant?
    deliveryFrom := ← r.optional "deliveryFrom" instant?
    deliveryTo := ← r.optional "deliveryTo" instant?
    costMin := ← r.optional "costMin" float?
    costMax := ← r.optional "costMax" float?
    priceMin := ← r.optional "priceMin" float?
    priceMax := ← r.optional "priceMax" float?
    search := ← r.optional "search" text? }

end Filter

end FleetTrail.Offer
