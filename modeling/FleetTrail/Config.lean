import FleetTrail.Number.Whole
import FleetTrail.Query.Page
import FleetTrail.Text.Blank

/-!
# Configuration

The settings of the service, taken from the environment. A variable that is missing, or a number
that does not read, leaves the default.
-/

namespace FleetTrail

abbrev Environment := List (String × String)

structure Config where
  brokerServers : String
  topic : String
  groupId : String
  autoOffsetReset : String
  saslMechanism : String
  brokerUser : String
  brokerPassword : String
  securityProtocol : String
  /-- How many receive errors in a row open the circuit breaker. -/
  maxRetries : Nat
  /-- How many seconds the circuit breaker stays open. -/
  cooldown : Nat
  databaseUrl : String
  maxConnections : Nat
  statementTimeoutMs : Nat
  defaultLimit : Int64
  maxLimit : Int64
  logLevel : String

namespace Config

/-- The names of the variables that are read; no other one has an effect. -/
def variableNames : List String :=
  ["KAFKA_BOOTSTRAP_SERVERS", "KAFKA_TOPIC", "KAFKA_GROUP_ID", "KAFKA_AUTO_OFFSET_RESET",
    "KAFKA_SASL_MECHANISM", "KAFKA_USERNAME", "KAFKA_PASSWORD", "KAFKA_SECURITY_PROTOCOL",
    "KAFKA_MAX_RETRIES", "KAFKA_CIRCUIT_BREAKER_COOLDOWN", "DATABASE_URL", "DB_USER", "DB_PWD",
    "DB_HOST", "DB_PORT", "DB_DATABASE", "DB_MAX_CONNECTIONS", "DB_STATEMENT_TIMEOUT_MS",
    "QUERY_DEFAULT_LIMIT", "QUERY_MAX_LIMIT", "LOG_LEVEL"]

private def textOr (env : Environment) (name default : String) : String :=
  (env.lookup name).getD default

private def numberOr {α ε : Type} (env : Environment) (name : String) (default : α)
    (read : List Char → Except ε α) : α :=
  match env.lookup name with
  | none => default
  | some s =>
    match read (Text.trim s.toList) with
    | .ok n => n
    | .error _ => default

private def word32 : List Char → Except Number.WholeError Nat := Number.readUpTo (UInt32.size - 1)

private def word64 : List Char → Except Number.WholeError Nat := Number.readUpTo (UInt64.size - 1)

/-- The address of the database, put together from its parts. -/
private def assembledUrl (env : Environment) : String :=
  "postgres://" ++ textOr env "DB_USER" "geotrack" ++ ":" ++ textOr env "DB_PWD" "geotrack" ++
    "@" ++ textOr env "DB_HOST" "localhost" ++ ":" ++ textOr env "DB_PORT" "5432" ++ "/" ++
    textOr env "DB_DATABASE" "geotrack"

/-- The address of the database: as given, or put together when none or an empty one is. -/
private def databaseUrlOf (env : Environment) : String :=
  match env.lookup "DATABASE_URL" with
  | some url => if url = "" then assembledUrl env else url
  | none => assembledUrl env

def load (env : Environment) : Config where
  brokerServers := textOr env "KAFKA_BOOTSTRAP_SERVERS" "localhost:9092"
  topic := textOr env "KAFKA_TOPIC" "geotrack-telemetry"
  groupId := textOr env "KAFKA_GROUP_ID" "geotrack-ingest"
  autoOffsetReset := textOr env "KAFKA_AUTO_OFFSET_RESET" "latest"
  saslMechanism := textOr env "KAFKA_SASL_MECHANISM" "SCRAM-SHA-256"
  brokerUser := textOr env "KAFKA_USERNAME" ""
  brokerPassword := textOr env "KAFKA_PASSWORD" ""
  securityProtocol := textOr env "KAFKA_SECURITY_PROTOCOL" "SASL_PLAINTEXT"
  maxRetries := numberOr env "KAFKA_MAX_RETRIES" 5 word32
  cooldown := numberOr env "KAFKA_CIRCUIT_BREAKER_COOLDOWN" 300 word64
  databaseUrl := databaseUrlOf env
  maxConnections := numberOr env "DB_MAX_CONNECTIONS" 50 word32
  statementTimeoutMs := numberOr env "DB_STATEMENT_TIMEOUT_MS" 30000 word64
  defaultLimit := numberOr env "QUERY_DEFAULT_LIMIT" Query.Limits.standard.default
    Number.readInt64
  maxLimit := numberOr env "QUERY_MAX_LIMIT" Query.Limits.standard.max Number.readInt64
  logLevel := textOr env "LOG_LEVEL" "info"

/-- The bounds of a page: both positive, and the default not above the maximum. -/
def limits (c : Config) : Query.Limits where
  default := max (min c.defaultLimit c.maxLimit) 1
  max := max c.maxLimit 1

/-- What a connection asks of the database when it is opened: that no statement runs longer than
the timeout. -/
def connectionOptions (c : Config) : String :=
  "-c statement_timeout=" ++ Number.natText c.statementTimeoutMs

end Config

end FleetTrail
