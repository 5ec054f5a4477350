import FleetTrail.Json.Record
import FleetTrail.Number.Text

/-!
# Geographic points

A point and its textual form in the store. A point is written as the token `POINT(lng lat)`.
Reading accepts that token in any case, with blanks and with a reference system in front, and
the older pair `(lng, lat)`. A binary rendering of a point is recognised and refused: it means
that a query forgot to ask for the column as text.
-/

namespace FleetTrail.Geo

/-- A point by latitude and longitude in degrees. -/
structure Point where
  lat : Float
  lng : Float
  deriving Inhabited

/-- Why a text is no point. -/
inductive PointError where
  | binary
  | malformed (text : String)
  | outOfRange (lat lng : Float)

def PointError.message : PointError → String
  | .binary =>
    "received a binary-encoded point; re-request the column rendered as text (ST_AsText)"
  | .malformed text => "malformed point text: '" ++ text ++ "'"
  | .outOfRange lat lng =>
    "point out of range: lat=" ++ Number.floatText lat ++ ", lng=" ++ Number.floatText lng

namespace Point

/-- The point that stands for a missing one. -/
def origin : Point := ⟨0.0, 0.0⟩

/-- The origin doubles as "no point"; zeros of either sign count. -/
def isNull (p : Point) : Bool := p.lat == 0.0 && p.lng == 0.0

/-- The token of a point, longitude first; `none` for the null point. -/
def token? (p : Point) : Option String :=
  if p.isNull then none
  else some ("POINT(" ++ Number.floatText p.lng ++ " " ++ Number.floatText p.lat ++ ")")

/-- The token of an optional point; an absent point and the null point both have none. -/
def tokenOf (p : Option Point) : Option String := p.bind token?

/-- A text that can only be a point in binary form, in hexadecimal digits: it opens with a byte
order of 00 or 01 and is at least 21 bytes long. -/
def looksBinary (cs : List Char) : Bool :=
  let body := if ['\\', 'x'].isPrefixOf cs then cs.drop 2 else cs
  42 ≤ body.length && body.length % 2 == 0 &&
    (['0', '0'].isPrefixOf body || ['0', '1'].isPrefixOf body) && body.all fun c => (Number.hexDigit? c).isSome

/-- What stands between an opening bracket in front and a closing bracket at the end. -/
def insideBrackets : List Char → Option (List Char)
  | '(' :: rest => if rest.getLast? = some ')' then some rest.dropLast else none
  | _ => none

/-- Drops a reference system: a part before the first semicolon that opens with `SRID=`. -/
def dropReference (cs : List Char) : List Char :=
  match cs.dropWhile (· ≠ ';') with
  | _ :: rest =>
    if "srid=".toList.isPrefixOf (Text.fold (Text.trim (cs.takeWhile (· ≠ ';')))) then
      Text.trim rest
    else cs
  | [] => cs

/-- Longitude and latitude of the form `POINT(lng lat)`. -/
def readTagged (cs : List Char) : Option (Float × Float) := do
  let body := dropReference cs
  if Text.fold (body.take 5) ≠ "point".toList then none
  let inner ← insideBrackets (Text.trimStart (body.drop 5))
  match Text.words inner with
  | [lng, lat] => return (← Number.readFloat lng, ← Number.readFloat lat)
  | _ => none

/-- Longitude and latitude of the form `(lng, lat)`. -/
def readPair (cs : List Char) : Option (Float × Float) := do
  let inner ← insideBrackets cs
  match inner.dropWhile (· ≠ ',') with
  | _ :: rest =>
    let lng ← Number.readFloat (Text.trim (inner.takeWhile (· ≠ ',')))
    let lat ← Number.readFloat (Text.trim rest)
    return (lng, lat)
  | [] => none

/-- Coordinates that are finite and on the globe, bounds included. -/
def inRange (lat lng : Float) : Bool :=
  lat.isFinite && lng.isFinite && lat.abs ≤ 90.0 && lng.abs ≤ 180.0

def ofText (raw : String) : Except PointError Point :=
  let cs := Text.trim raw.toList
  if looksBinary cs then .error .binary
  else
    match readTagged cs <|> readPair cs with
    | none => .error (.malformed (String.ofList cs))
    | some (lng, lat) =>
      if inRange lat lng then .ok ⟨lat, lng⟩ else .error (.outOfRange lat lng)

/-- Reads an optional text; NULL gives no point. -/
def ofOptionalText (raw : Option String) : Except PointError (Option Point) :=
  match raw with
  | none => .ok none
  | some text => (ofText text).map some

def toJson (p : Point) : Json.Value :=
  .ofFields [("lat", .ofFloat p.lat), ("lng", .ofFloat p.lng)]

def ofJson? (v : Json.Value) : Option Point := do
  let r ← Json.Fields.full? ["lat", "lng"] v
  return { lat := ← r.required "lat" Json.Value.float?, lng := ← r.required "lng" Json.Value.float? }

end Point

end FleetTrail.Geo
