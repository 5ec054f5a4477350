/-!
# The SQL of the store

The fixed parts of all statements. Telemetry samples are `g`, trips `t`, offers `o`, links
between trips and offers `l`, drivers `d` and vehicles `v`. Points are always read through
`ST_AsText` and written through `ST_GeogFromText`.
-/

namespace FleetTrail.Store.Sql

def telemetryColumns : String := "
g.id, g.company_id, g.vehicle_id, g.driver_id, g.offer_id, g.trip_id,
g.battery_level, g.speed, g.heading, g.accuracy,
ST_AsText(g.coordinates) AS coordinates,
g.status, g.logged_at, g.created_at
"

def telemetryFrom : String := "
FROM gps_logs g
LEFT JOIN trips t ON t.id = g.trip_id
LEFT JOIN drivers d ON d.id = g.driver_id
LEFT JOIN vehicles v ON v.id = g.vehicle_id
"

def tripColumns : String := "
t.id, t.driver_id, t.vehicle_id, t.from_address, t.to_address,
t.from_country, t.to_country, t.start_date, t.end_date,
ST_AsText(t.from_location) AS from_location,
ST_AsText(t.to_location) AS to_location,
t.distance_km, t.status, t.meta_fields, t.gps_logs_snapshot,
t.created_at, t.updated_at
"

def tripDetailColumns : String := "
d.id AS joined_driver_id, d.name AS driver_name, d.phone AS driver_phone,
v.id AS joined_vehicle_id, v.plate_number AS vehicle_plate_number, v.model AS vehicle_model
"

def tripFrom : String := "
FROM trips t
LEFT JOIN drivers d ON d.id = t.driver_id
LEFT JOIN vehicles v ON v.id = t.vehicle_id
"

def offerFrom : String := "
FROM offers o
LEFT JOIN drivers d ON d.id = o.driver_id
LEFT JOIN vehicles v ON v.id = o.vehicle_id
"

/-- The fields of one live offer that a trip can inherit. -/
def selectOfferDefaults : String := "
SELECT id, driver_id, vehicle_id, from_address, to_address, from_country, to_country,
       ST_AsText(from_location) AS from_location,
       ST_AsText(to_location) AS to_location,
       distance_km
FROM offers
WHERE id = $1 AND deleted = false;
"

/-- A new active trip; it starts now unless a start is given. -/
def insertTrip : String := "
INSERT INTO trips (
    driver_id, vehicle_id, from_address, to_address, from_country, to_country,
    start_date, from_location, to_location, distance_km, status, meta_fields,
    created_at, updated_at, deleted
) VALUES (
    $1, $2, $3, $4, $5, $6,
    COALESCE($7, NOW()), ST_GeogFromText($8), ST_GeogFromText($9), $10, 'active', $11,
    NOW(), NOW(), false
)
RETURNING id;
"

def insertTripOffer : String := "
INSERT INTO trip_offers (trip_id, offer_id, is_main, status)
VALUES ($1, $2, $3, $4);
"

/-- Locks one live trip until the transaction ends. -/
def selectTripForUpdate : String := "
SELECT driver_id, status FROM trips WHERE id = $1 AND deleted = false FOR UPDATE;
"

/-- Completes one trip that is still active and stores its snapshot. -/
def completeTrip : String := "
UPDATE trips
SET status = 'completed',
    end_date = NOW(),
    gps_logs_snapshot = $2,
    updated_at = NOW()
WHERE id = $1 AND status = 'active';
"

/-- A new telemetry sample, unless it names a trip that is missing or deleted. -/
def insertTelemetry : String := "
INSERT INTO gps_logs (
    company_id, vehicle_id, driver_id, offer_id, trip_id,
    battery_level, speed, heading, accuracy, coordinates,
    status, logged_at, created_at
)
SELECT $1::bigint, $2::bigint, $3::bigint, $4::bigint, $5::bigint,
       $6::float8, $7::float8, $8::float8, $9::float8, ST_GeogFromText($10::text),
       $11::text, COALESCE($12::timestamptz, NOW()), NOW()
WHERE $5::bigint IS NULL
   OR EXISTS (SELECT 1 FROM trips WHERE id = $5::bigint AND deleted = false);
"

/-- The links of the listed trips with their offers, main links first. -/
def selectTripOfferDetails : String := "
SELECT l.trip_id, l.offer_id, l.is_main, l.status,
       o.status AS offer_status, o.from_address, o.to_address
FROM trip_offers l
LEFT JOIN offers o ON o.id = l.offer_id
WHERE l.trip_id = ANY($1)
ORDER BY l.trip_id, l.is_main DESC, l.offer_id;
"

/-- The telemetry of one trip in the order of its log. -/
def selectTripTelemetry : String :=
  "SELECT " ++ telemetryColumns ++
    " FROM gps_logs g WHERE g.trip_id = $1 ORDER BY g.logged_at ASC, g.id ASC"

end FleetTrail.Store.Sql
