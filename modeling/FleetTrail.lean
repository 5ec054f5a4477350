import FleetTrail.Broker.Breaker
import FleetTrail.Broker.Consumer
import FleetTrail.Config
import FleetTrail.Failure
import FleetTrail.Geo.Point
import FleetTrail.Json.Number
import FleetTrail.Json.Parser
import FleetTrail.Json.Record
import FleetTrail.Json.Text
import FleetTrail.Json.Value
import FleetTrail.Number.Shortest
import FleetTrail.Number.Text
import FleetTrail.Number.Whole
import FleetTrail.Offer.Clause
import FleetTrail.Offer.Correlation
import FleetTrail.Offer.Defaults
import FleetTrail.Offer.Filter
import FleetTrail.Query.Builder
import FleetTrail.Query.Fault
import FleetTrail.Query.Like
import FleetTrail.Query.Marker
import FleetTrail.Query.Order
import FleetTrail.Query.Page
import FleetTrail.Query.Select
import FleetTrail.Query.Value
import FleetTrail.Service.Ingestion
import FleetTrail.Service.Listing
import FleetTrail.Service.Transaction
import FleetTrail.Service.Trips
import FleetTrail.Store.Column
import FleetTrail.Store.Connection
import FleetTrail.Store.Script
import FleetTrail.Store.Session
import FleetTrail.Store.Sql
import FleetTrail.Store.Statement
import FleetTrail.Telemetry.Batch
import FleetTrail.Telemetry.BatchId
import FleetTrail.Telemetry.Clause
import FleetTrail.Telemetry.Filter
import FleetTrail.Telemetry.Payload
import FleetTrail.Telemetry.Sample
import FleetTrail.Telemetry.Select
import FleetTrail.Text.Blank
import FleetTrail.Text.Quoted
import FleetTrail.Text.Scan
import FleetTrail.Text.Shapeless
import FleetTrail.Text.Utf8
import FleetTrail.Time.Calendar
import FleetTrail.Time.Device
import FleetTrail.Time.Instant
import FleetTrail.Time.Rfc3339
import FleetTrail.Trip.Basic
import FleetTrail.Trip.Clause
import FleetTrail.Trip.Filter
import FleetTrail.Trip.Json
import FleetTrail.Trip.Opening
import FleetTrail.Trip.Select
import FleetTrail.Trip.Status
import FleetTrail.Proofs.Broker.Cooldown
import FleetTrail.Proofs.Broker.Isolation
import FleetTrail.Proofs.Geo.Grammar
import FleetTrail.Proofs.Geo.RoundTrip
import FleetTrail.Proofs.Json.Bytes
import FleetTrail.Proofs.Json.Grammar
import FleetTrail.Proofs.Json.Reader
import FleetTrail.Proofs.Number.Digits
import FleetTrail.Proofs.Number.Double
import FleetTrail.Proofs.Number.Nearest
import FleetTrail.Proofs.Number.RoundTrip
import FleetTrail.Proofs.Number.Rounding
import FleetTrail.Proofs.Number.Shortest
import FleetTrail.Proofs.Number.Whole
import FleetTrail.Proofs.Offer.Correlation
import FleetTrail.Proofs.Offer.Criteria
import FleetTrail.Proofs.Query.Alignment
import FleetTrail.Proofs.Query.Completion
import FleetTrail.Proofs.Query.Criteria
import FleetTrail.Proofs.Query.Filters
import FleetTrail.Proofs.Query.Independence
import FleetTrail.Proofs.Query.Markers
import FleetTrail.Proofs.Query.Meaning
import FleetTrail.Proofs.Query.Membership
import FleetTrail.Proofs.Query.Outline
import FleetTrail.Proofs.Query.Paging
import FleetTrail.Proofs.Query.Part
import FleetTrail.Proofs.Query.Placeholders
import FleetTrail.Proofs.Query.Reading
import FleetTrail.Proofs.Query.Stages
import FleetTrail.Proofs.Query.Substring
import FleetTrail.Proofs.Result
import FleetTrail.Proofs.Service.Answers
import FleetTrail.Proofs.Service.Atomicity
import FleetTrail.Proofs.Service.Closing
import FleetTrail.Proofs.Service.Delivery
import FleetTrail.Proofs.Service.Ending
import FleetTrail.Proofs.Service.Listings
import FleetTrail.Proofs.Service.Nesting
import FleetTrail.Proofs.Service.Plan
import FleetTrail.Proofs.Service.Readback
import FleetTrail.Proofs.Service.Replies
import FleetTrail.Proofs.Service.Secrecy
import FleetTrail.Proofs.Service.Starting
import FleetTrail.Proofs.Service.Written
import FleetTrail.Proofs.Sql.Condition
import FleetTrail.Proofs.Sql.Reader
import FleetTrail.Proofs.Sql.Truth
import FleetTrail.Proofs.Store.Bound
import FleetTrail.Proofs.Store.Locking
import FleetTrail.Proofs.Telemetry.Decoding
import FleetTrail.Proofs.Telemetry.Fields
import FleetTrail.Proofs.Telemetry.Leniency
import FleetTrail.Proofs.Telemetry.Recorded
import FleetTrail.Proofs.Telemetry.Rows
import FleetTrail.Proofs.Telemetry.Samples
import FleetTrail.Proofs.Telemetry.Snapshot
import FleetTrail.Proofs.Telemetry.Times
import FleetTrail.Proofs.Text.Blank
import FleetTrail.Proofs.Text.Scan
import FleetTrail.Proofs.Text.Utf8
import FleetTrail.Proofs.Time.Calendar
import FleetTrail.Proofs.Time.Stamp
import FleetTrail.Proofs.Time.Text
import FleetTrail.Proofs.Trip.Inheritance
