import Mathlib.Algebra.Order.Field.Rat
import WolandGuard.Agent.Spool

/-!
# Delivery of a batch

`transport.py` sorts the reply to a batch into classes, and `deliver_once` of
`delivery.py` decides by the class what happens to the batch: its rows are
deleted after a valid 200, put off after a failure that may pass, and after a
refusal of the content put off in halves until a single event can be set aside.
-/

set_option autoImplicit false

namespace WolandGuard.Agent

/-! ## Replies -/

inductive DeliveryClass where
  | success
  | authentication
  | forbidden
  | payloadTooLarge
  | unprocessable
  | rateLimited
  | serverError
  | networkError
  | protocolError
  deriving DecidableEq, Repr

def DeliveryClass.value : DeliveryClass → String
  | .success => "success"
  | .authentication => "authentication"
  | .forbidden => "forbidden"
  | .payloadTooLarge => "payload_too_large"
  | .unprocessable => "unprocessable"
  | .rateLimited => "rate_limited"
  | .serverError => "server_error"
  | .networkError => "network_error"
  | .protocolError => "protocol_error"

structure TransportResult where
  classification : DeliveryClass
  accepted : Nat
  existing : Nat
  retryAfterSeconds : Option Rat
  deriving DecidableEq

/-- What `httpx` returns for a request. `counts` are `accepted` and `existing`
of a JSON body that has them as integers, and `retryAfter` is the header as a
number of seconds from now. -/
inductive Reply where
  | httpError
  | response (status : Nat) (counts : Option (Int × Int)) (retryAfter : Option Rat)

/-- A result without counts. -/
def TransportResult.failed (classification : DeliveryClass) : TransportResult :=
  ⟨classification, 0, 0, none⟩

/-- `_successful_result`. -/
def successfulResult (counts : Option (Int × Int)) (expected : Nat) : TransportResult :=
  match counts with
  | none => .failed .protocolError
  | some (accepted, existing) =>
      if accepted < 0 ∨ existing < 0 ∨ accepted + existing ≠ expected then .failed .protocolError
      else ⟨.success, accepted.toNat, existing.toNat, none⟩

/-- `_retry_after_seconds` of a header that is a number or a date. -/
def retryAfterSeconds (seconds : Rat) : Rat := max 0 (min seconds 3600)

/-- The result that `send` makes of a reply to a batch of `expected` events. -/
def transportResult (expected : Nat) : Reply → TransportResult
  | .httpError => .failed .networkError
  | .response status counts retryAfter =>
      if status = 200 then successfulResult counts expected
      else if status = 401 then .failed .authentication
      else if status = 403 then .failed .forbidden
      else if status = 413 then .failed .payloadTooLarge
      else if status = 422 then .failed .unprocessable
      else if status = 429 then ⟨.rateLimited, 0, 0, retryAfter.map retryAfterSeconds⟩
      else if 500 ≤ status ∧ status ≤ 599 then .failed .serverError
      else .failed .protocolError

/-- **A success is a 200 whose counts add up to the batch.** -/
theorem success_spec {expected : Nat} {reply : Reply}
    (success : (transportResult expected reply).classification = .success) :
    ∃ accepted existing : Nat, accepted + existing = expected ∧
      ∃ retryAfter, reply = .response 200 (some (accepted, existing)) retryAfter := by
  unfold transportResult at success
  split at success
  · cases success
  next status counts retryAfter =>
    -- every status but 200 has a class of its own
    split_ifs at success with ok
    · subst ok
      unfold successfulResult at success
      split at success
      · cases success
      next accepted existing =>
        split at success
        · cases success
        next valid =>
          simp only [not_or, not_lt, not_not] at valid
          obtain ⟨accepted_nonneg, existing_nonneg, sum⟩ := valid
          refine ⟨accepted.toNat, existing.toNat, by omega, retryAfter, ?_⟩
          rw [Int.toNat_of_nonneg accepted_nonneg, Int.toNat_of_nonneg existing_nonneg]
    all_goals cases success

/-! ## Delivery -/

/-- The configuration of `DeliveryManager` and of its `BackoffPolicy`. -/
structure DeliverySettings where
  configuredBatchSize : Nat
  baseSeconds : Rat
  maximumSeconds : Rat
  authenticationRetrySeconds : Rat

/-- `BackoffPolicy.delay`, where `random` is the number that is drawn. -/
def DeliverySettings.delay (settings : DeliverySettings) (attempt : Nat) (random : Rat) : Rat :=
  let cap := min settings.maximumSeconds (settings.baseSeconds * 2 ^ min attempt 30)
  cap / 2 + random * cap / 2

inductive DeliveryAction where
  | idle
  | delivered
  | deferred
  | quarantined
  deriving DecidableEq, Repr

/-- The spool and `_current_batch_size`. -/
structure DeliveryState where
  spool : Spool
  currentBatchSize : Nat

/-- What `send` was called with. -/
abbrev QueuedEvents := List (NormalizedEventV1 × Nat)

/-- The ids of a batch. -/
def QueuedEvents.ids (queued : QueuedEvents) : List Uuid := queued.map (·.1.eventId)

/-- `max(item.attempts for item in queued)`. -/
def QueuedEvents.attempts (queued : QueuedEvents) : Nat := (queued.map (·.2)).foldl max 0

section Deliver

variable (settings : DeliverySettings) (now : Rat) (queued : QueuedEvents)
variable (classification : DeliveryClass)

/-- `_defer`. -/
def deferBatch (delay : Rat) (state : DeliveryState) : DeliveryState × DeliveryAction :=
  ({ state with spool := state.spool.defer now queued.ids delay classification.value }, .deferred)

/-- `_handle_splittable_failure`. -/
def handleSplittableFailure (terminalStatus : SpoolStatus) (state : DeliveryState) :
    DeliveryState × DeliveryAction :=
  if 1 < queued.length then
    deferBatch now queued classification 0
      { state with currentBatchSize := max 1 (queued.length / 2) }
  else
    match queued with
    | [] => (state, .idle)
    | (event, _) :: _ =>
        match state.spool.quarantine event.eventId terminalStatus classification.value with
        | .error _ => (state, .idle)
        | .ok spool => ({ state with spool := spool }, .quarantined)

/-- `deliver_once` from the result of `send` on. -/
def afterSend (random : Rat) (result : TransportResult) (state : DeliveryState) :
    DeliveryState × DeliveryAction :=
  match result.classification with
  | .success =>
      ({ spool := state.spool.acknowledge queued.ids
         currentBatchSize := settings.configuredBatchSize }, .delivered)
  | .authentication | .forbidden =>
      deferBatch now queued result.classification settings.authenticationRetrySeconds state
  | .payloadTooLarge =>
      handleSplittableFailure now queued result.classification .oversized state
  | .unprocessable =>
      handleSplittableFailure now queued result.classification .quarantined state
  | .rateLimited =>
      deferBatch now queued result.classification
        (result.retryAfterSeconds.getD (settings.delay queued.attempts random)) state
  | .serverError | .networkError | .protocolError =>
      deferBatch now queued result.classification (settings.delay queued.attempts random) state

end Deliver

section Effects

variable (settings : DeliverySettings) (now random : Rat) (queued : QueuedEvents)
variable (result : TransportResult) (state : DeliveryState)

theorem queued_deferBatch (classification : DeliveryClass) (delay : Rat) :
    (deferBatch now queued classification delay state).1.spool.queued = state.spool.queued := by
  simp [deferBatch]

theorem queued_handleSplittableFailure (classification : DeliveryClass) (status : SpoolStatus) :
    (handleSplittableFailure now queued classification status state).1.spool.queued =
      state.spool.queued := by
  unfold handleSplittableFailure
  split
  · rw [queued_deferBatch]
  · split
    · rfl
    · split
      · rfl
      next set_aside => exact Spool.queued_quarantine set_aside

/-- **Only a success takes events out of the spool, and only those of the
batch.** -/
theorem afterSend_spec :
    result.classification = .success ∧
        (afterSend settings now queued random result state).1.spool.queued =
          state.spool.queued.filter (fun event => !queued.ids.contains event.eventId) ∨
      (afterSend settings now queued random result state).1.spool.queued = state.spool.queued := by
  unfold afterSend
  split
  next success => exact .inl ⟨success, by simp⟩
  · exact .inr (queued_deferBatch _ _ _ _ _)
  · exact .inr (queued_deferBatch _ _ _ _ _)
  · exact .inr (queued_handleSplittableFailure _ _ _ _ _)
  · exact .inr (queued_handleSplittableFailure _ _ _ _ _)
  · exact .inr (queued_deferBatch _ _ _ _ _)
  · exact .inr (queued_deferBatch _ _ _ _ _)
  · exact .inr (queued_deferBatch _ _ _ _ _)
  · exact .inr (queued_deferBatch _ _ _ _ _)

theorem onRows_handleSplittableFailure (classification : DeliveryClass) (status : SpoolStatus) :
    Spool.OnRows state.spool
      (handleSplittableFailure now queued classification status state).1.spool := by
  unfold handleSplittableFailure
  split
  · exact Spool.onRows_defer _ _ _
  · split
    · exact .refl _
    · split
      · exact .refl _
      next set_aside => exact Spool.onRows_quarantine set_aside

/-- **A reply to a batch works on the rows that are there.** -/
theorem onRows_afterSend :
    Spool.OnRows state.spool (afterSend settings now queued random result state).1.spool := by
  unfold afterSend
  split
  · exact Spool.onRows_acknowledge _
  · exact Spool.onRows_defer _ _ _
  · exact Spool.onRows_defer _ _ _
  · exact onRows_handleSplittableFailure _ _ _ _ _
  · exact onRows_handleSplittableFailure _ _ _ _ _
  · exact Spool.onRows_defer _ _ _
  · exact Spool.onRows_defer _ _ _
  · exact Spool.onRows_defer _ _ _
  · exact Spool.onRows_defer _ _ _

end Effects

end WolandGuard.Agent
