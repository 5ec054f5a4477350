import FleetTrail.Broker.Breaker
import FleetTrail.Config
import FleetTrail.Service.Ingestion
import FleetTrail.Store.Connection

/-!
# The consumer

The loop that receives messages from the broker and hands each one to ingestion, one after the
other. Receive errors count towards a circuit breaker, which makes the loop sleep; whatever
happens to a message does not. What the loop does between two receives is a round. All rounds
share one connection to the store, which is also cleared while the loop sleeps.
-/

namespace FleetTrail.Broker

open Store

/-- What a receive brings. -/
inductive Event where
  | failed (text : String)
  /-- A message without a payload. -/
  | empty
  | message (payload : ByteArray) (partition offset : Int)

/-- The settings of the broker's client, in order. -/
def clientSettings (c : Config) : List (String × String) :=
  [("bootstrap.servers", c.brokerServers),
    ("group.id", c.groupId),
    ("auto.offset.reset", c.autoOffsetReset),
    ("security.protocol", c.securityProtocol),
    ("sasl.mechanism", c.saslMechanism),
    ("sasl.username", c.brokerUser),
    ("sasl.password", c.brokerPassword)]

/-- Why the loop sleeps. -/
inductive Pause where
  /-- A receive failed. -/
  | afterError
  /-- The circuit breaker was open. -/
  | cooldown
  deriving DecidableEq, Repr

/-- How long a pause lasts, in milliseconds. A cooldown whose end the clock cannot tell, with its
seconds in 63 bits, lasts thirty years. -/
def Pause.ms (c : Config) : Pause → Nat
  | .afterError => 500
  | .cooldown => (if c.cooldown < Nat.pow 2 63 then c.cooldown else 30 * 365 * 24 * 60 * 60) * 1000

/-- What the loop does between two receives. -/
structure Round where
  trace : List Step
  pauses : List Pause

/-- Rounds, one after the other, as one. -/
def Round.append (a b : Round) : Round := ⟨a.trace ++ b.trace, a.pauses ++ b.pauses⟩

/-- How long the loop sleeps in a round, in milliseconds. -/
def Round.waitedMs (c : Config) (r : Round) : Nat := (r.pauses.map (Pause.ms c)).foldr (· + ·) 0

private def entry (level : Level) (text : String) : Step := .noted ⟨level, text⟩

/-- At the top of the loop an open breaker makes it sleep for the cooldown. -/
def coolDown {σ : Type} (store : Responder σ) (c : Config) (b : Breaker) (conn : Connection σ) :
    Round × Breaker × Connection σ :=
  if b.isOpen then
    let (cleared, conn) := conn.clear store
    (⟨entry .warn ("Circuit breaker tripped (" ++ Number.natText b.failures ++
          " consecutive failures)! Sleeping for " ++ Number.natText c.cooldown ++ " seconds...") ::
        cleared ++ [entry .info "Circuit breaker reset. Resuming consumption."],
      [.cooldown]⟩, b.reset, conn)
  else (⟨[], []⟩, b, conn)

/-- What the loop does with one event. -/
def handle {σ : Type} (store : Responder σ) (b : Breaker) (conn : Connection σ) :
    Event → Round × Breaker × Connection σ
  | .failed text =>
    let b := b.recordFailure
    let (cleared, conn) := conn.clear store
    (⟨entry .error ("Kafka error: " ++ text ++ ". Incrementing failure count (" ++
        Number.natText b.failures ++ " / " ++ Number.natText b.max ++ ")") :: cleared,
      [.afterError]⟩, b, conn)
  | .empty => (⟨[entry .warn "Received empty payload from Kafka"], []⟩, b.reset, conn)
  | .message payload partition offset =>
    let run := (Service.deliver payload).runOn store conn
    let failed :=
      match run.value with
      | .ok _ => []
      | .error e =>
        [entry .error ("Error ingesting message at " ++ Number.intText partition ++ "/" ++
          Number.intText offset ++ ": " ++ e.message)]
    (⟨run.trace ++ failed, []⟩, b.reset, run.state)

/-- The rounds after each of the events. -/
def rounds {σ : Type} (store : Responder σ) (c : Config) :
    Breaker → Connection σ → List Event → List Round
  | _, _, [] => []
  | b, conn, event :: rest =>
    let (handled, b, conn) := handle store b conn event
    let (cooled, b, conn) := coolDown store c b conn
    handled.append cooled :: rounds store c b conn rest

/-- The first thing that the loop notes. -/
def greeting (c : Config) : Step :=
  entry .info ("Initializing Kafka consumer for topic: " ++ c.topic)

/-- All rounds of the loop: the one before the first receive, and the one after each event. -/
def consume {σ : Type} (store : Responder σ) (c : Config) (s : σ) (events : List Event) :
    List Round :=
  let start : Round := ⟨[greeting c, entry .info ("Subscribed to topic: " ++ c.topic)], []⟩
  let (cooled, b, conn) := coolDown store c (Breaker.closed c.maxRetries) ⟨s, false⟩
  start.append cooled :: rounds store c b conn events

end FleetTrail.Broker
