import Mathlib.Algebra.Order.Group.Int
import WolandGuard.Agent.Normalization
import WolandGuard.Agent.Rounds

/-!
# The ingestion route

What `api/routes/events.py` and the middleware before it answer to a batch. The
reply depends on the envelope of the batch, on its events, and on what the
control plane finds: its clock, the key of the agent, the rate limiter, and the
outcome of the insertion. The encoder of the request body and the contract's
check of an event are parameters.
-/

set_option autoImplicit false

namespace WolandGuard.Agent

/-! ## Batches -/

/-- A batch: its events and their envelope. The schema version is the constant 1. -/
structure EventBatchV1 where
  batchId : Uuid
  sentAt : Int
  events : List NormalizedEventV1

/-- `model_dump(mode="json")`. -/
def EventBatchV1.dump (batch : EventBatchV1) : JsonValue :=
  .obj
    [("schema_version", .int 1), ("batch_id", .str (Uuid.text batch.batchId)),
      ("sent_at", .str (instantText batch.sentAt)),
      ("events", .arr (batch.events.map (·.payload)))]

/-- The configuration of the route, with the two parts that are not embedded:
the number of bytes that a JSON body is encoded in, and whether the contract
accepts an event. -/
structure IngestSettings where
  maxBodyBytes : Nat
  maxClockSkewSeconds : Nat
  encodedBytes : JsonValue → Nat
  conforms : NormalizedEventV1 → Bool

inductive AuthenticationFailure where
  | invalidAgentCredentials
  | inactiveServer
  deriving DecidableEq, Repr

/-- What the control plane finds when a request arrives. `retryAfter` is the
answer of the rate limiter, and `inserted` the number of new events; it is
missing when the insertion or the detection fails. -/
structure Arrival where
  now : Int
  agent : Except AuthenticationFailure Unit
  retryAfter : Option Nat
  inserted : Option Nat

structure ApiError where
  status : Nat
  detail : String
  retryAfter : Option Nat
  deriving DecidableEq, Repr

/-! ## Checks -/

section Checks

variable (settings : IngestSettings) (now : Int)

/-- The body is refused by `IngestionRequestGuardMiddleware`. -/
def tooLarge (batch : EventBatchV1) : Bool :=
  settings.maxBodyBytes < settings.encodedBytes batch.dump

/-- The contract of a batch. -/
def batchConforms (batch : EventBatchV1) : Bool :=
  1 ≤ batch.events.length && batch.events.length ≤ 100 && batch.events.all settings.conforms &&
    decide (batch.events.map (·.eventId)).Nodup

/-- `sent_at` is within the allowed clock skew. -/
def inSkew (batch : EventBatchV1) : Bool :=
  |now - batch.sentAt| ≤ seconds settings.maxClockSkewSeconds

/-- `collected_at` is outside the allowed clock skew. -/
def collectedLate (event : NormalizedEventV1) : Bool :=
  now + seconds settings.maxClockSkewSeconds < event.collectedAt

/-- `_validate_timestamps`: the detail of its error. -/
def validateTimestamps (batch : EventBatchV1) : Option String :=
  if !inSkew settings now batch then some "sent_at is outside allowed clock skew"
  else if batch.events.any (collectedLate settings now) then
    some "event collected_at is outside allowed clock skew"
  else none

end Checks

/-! ## Replies -/

/-- `ingest_events` behind the middleware: `accepted` and `existing`, or an
error. -/
def ingestEvents (settings : IngestSettings) (arrival : Arrival) (batch : EventBatchV1) :
    Except ApiError (Int × Int) :=
  if tooLarge settings batch then .error ⟨413, "request body is too large", none⟩
  else if !batchConforms settings batch then .error ⟨422, "request validation failed", none⟩
  else
    match arrival.agent with
    | .error .invalidAgentCredentials => .error ⟨401, "invalid agent credentials", none⟩
    | .error .inactiveServer => .error ⟨403, "server is inactive", none⟩
    | .ok () =>
        match arrival.retryAfter with
        | some delay => .error ⟨429, "agent request rate exceeded", some delay⟩
        | none =>
            match validateTimestamps settings arrival.now batch with
            | some detail => .error ⟨422, detail, none⟩
            | none =>
                match arrival.inserted with
                | none => .error ⟨503, "event ingestion unavailable", none⟩
                | some accepted => .ok (accepted, batch.events.length - accepted)

/-- The response as the agent reads it. -/
def ingestReply (settings : IngestSettings) (arrival : Arrival) (batch : EventBatchV1) : Reply :=
  match ingestEvents settings arrival batch with
  | .error failure => .response failure.status none (failure.retryAfter.map fun delay => (delay : Rat))
  | .ok counts => .response 200 (some counts) none

/-- The agent takes the reply for a refusal of the content. -/
def Reply.refusesContent (reply : Reply) : Bool :=
  match reply with
  | .httpError => false
  | .response status _ _ => status = 413 || status = 422

/-- Only these replies make the agent split a batch or set an event aside. -/
theorem terminalStatus_isSome (expected : Nat) (reply : Reply) :
    (transportResult expected reply).classification.terminalStatus.isSome = reply.refusesContent := by
  cases reply with
  | httpError => rfl
  | response status counts retryAfter =>
      simp only [transportResult, Reply.refusesContent]
      by_cases ok : status = 200
      · subst ok
        have counted : (successfulResult counts expected).classification.terminalStatus = none := by
          unfold successfulResult
          split
          · rfl
          · split <;> rfl
        simp [counted]
      · split_ifs <;> simp_all [DeliveryClass.terminalStatus, TransportResult.failed]

/-- The request passes authentication and the rate limiter. -/
def Arrival.admitted (arrival : Arrival) : Bool :=
  arrival.agent.isOk && arrival.retryAfter.isNone

/-- **What makes the route refuse the content**: the size of the body, the
contract, and for admitted requests the two timestamp checks. -/
theorem refusesContent_iff (settings : IngestSettings) (arrival : Arrival) (batch : EventBatchV1) :
    (ingestReply settings arrival batch).refusesContent = true ↔
      tooLarge settings batch = true ∨ batchConforms settings batch = false ∨
        arrival.admitted = true ∧ (inSkew settings arrival.now batch = false ∨
          ∃ event ∈ batch.events, collectedLate settings arrival.now event = true) := by
  obtain ⟨now, agent, retryAfter, inserted⟩ := arrival
  unfold ingestReply ingestEvents
  by_cases large : tooLarge settings batch = true
  · simp [large, Reply.refusesContent]
  by_cases conforming : batchConforms settings batch = true
  · cases agent with
    | error failure =>
        cases failure <;> simp [large, conforming, Reply.refusesContent, Arrival.admitted, Except.isOk,
          Except.toBool]
    | ok passed =>
        cases retryAfter with
        | some delay =>
            simp [large, conforming, Reply.refusesContent, Arrival.admitted]
        | none =>
            have some_late : batch.events.any (collectedLate settings now) = true ↔
                ∃ event ∈ batch.events, collectedLate settings now event = true := List.any_eq_true
            by_cases skew : inSkew settings now batch = true
            · by_cases late : batch.events.any (collectedLate settings now) = true
              · simp [large, conforming, Reply.refusesContent, Arrival.admitted, validateTimestamps,
                  skew, late, ← some_late, Except.isOk, Except.toBool]
              · cases inserted <;>
                  simp [large, conforming, Reply.refusesContent, Arrival.admitted,
                    validateTimestamps, skew, late, ← some_late]
            · simp [large, conforming, Reply.refusesContent, Arrival.admitted, validateTimestamps,
                skew, Except.isOk, Except.toBool]
  · simp [large, conforming, Reply.refusesContent]

end WolandGuard.Agent
