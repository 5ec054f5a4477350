import FleetTrail.Telemetry.BatchId
import FleetTrail.Telemetry.Payload

/-!
# Batches

A payload decodes to one batch of readings, or not at all: a single bad sample refuses the
whole payload.
-/

namespace FleetTrail.Telemetry

structure Batch where
  id : BatchId
  readings : List Reading

/-- Why a payload gives no batch. -/
inductive BatchFault where
  | unparsable (fault : PayloadFault)
  | sample (index : Nat) (fault : SampleFault)

def BatchFault.message : BatchFault → String
  | .unparsable fault => "unparsable payload: " ++ fault.message
  | .sample index fault => "sample " ++ Number.natText index ++ ": " ++ fault.message

/-- The readings of samples, of which the first has the number `index`. -/
def readingsFrom : Nat → List Payload → Except BatchFault (List Reading)
  | _, [] => .ok []
  | index, p :: rest =>
    match p.reading with
    | .error fault => .error (.sample index fault)
    | .ok r => do return r :: (← readingsFrom (index + 1) rest)

def Batch.ofBytes (bytes : ByteArray) : Except BatchFault Batch := do
  let message ←
    match Message.ofBytes bytes with
    | .ok message => pure message
    | .error fault => throw (.unparsable fault)
  let readings ← readingsFrom 0 message.payloads
  return ⟨(message.uuid?.bind BatchId.ofText?).getD .fresh, readings⟩

private theorem readingsFrom_map {index : Nat} {payloads : List Payload} {readings : List Reading}
    (h : readingsFrom index payloads = .ok readings) :
    payloads.map Payload.reading = readings.map .ok := by
  induction payloads generalizing index readings with
  | nil =>
    cases h
    rfl
  | cons p rest ih =>
    rw [readingsFrom] at h
    cases hp : p.reading with
    | error fault =>
      rw [hp] at h
      cases h
    | ok r =>
      rw [hp] at h
      cases hrest : readingsFrom (index + 1) rest with
      | error fault =>
        rw [hrest] at h
        cases h
      | ok later =>
        rw [hrest] at h
        cases h
        rw [List.map_cons, List.map_cons, hp, ih hrest]

/-- The readings of a batch are those of the samples in its payload, each in its place. -/
theorem Batch.readings_of_ofBytes {bytes : ByteArray} {batch : Batch}
    (h : Batch.ofBytes bytes = .ok batch) : ∃ message, Message.ofBytes bytes = .ok message ∧
      message.payloads.map Payload.reading = batch.readings.map .ok := by
  rw [Batch.ofBytes] at h
  cases hmessage : Message.ofBytes bytes with
  | error fault =>
    rw [hmessage] at h
    cases h
  | ok message =>
    rw [hmessage] at h
    cases hreadings : readingsFrom 0 message.payloads with
    | error fault =>
      simp only [pure_bind, hreadings] at h
      cases h
    | ok readings =>
      simp only [pure_bind, hreadings] at h
      cases h
      exact ⟨message, rfl, readingsFrom_map hreadings⟩

end FleetTrail.Telemetry
