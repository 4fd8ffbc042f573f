import Mathlib.Data.List.Sort
import WolandGuard.Foundations.Rows
import WolandGuard.Outbox.Message

/-!
# Outbox transactions

The transactions of `application/outbox_worker.py`, each one commit: claim,
acknowledge, reschedule, permanent failure, recovery of expired leases and
the operator's requeue. A completion is an update whose `WHERE` clause asks
for the row, the status `processing` and the claim token; when it changes no
row the transaction raises `LeaseLostError`.
-/

set_option autoImplicit false

namespace WolandGuard.Outbox

open Foundations

/-- The errors raised by the outbox operations. -/
inductive OutboxError where
  | leaseLost
  | confirmationMismatch
  | additionalAttemptsOutOfRange
  | notAvailableForRequeue
  | maximumAttemptsExceeded
  | auditDetailInvalid
  deriving DecidableEq, Repr

def OutboxError.message : OutboxError → String
  | .leaseLost => "outbox claim is no longer owned"
  | .confirmationMismatch => "outbox requeue confirmation does not match"
  | .additionalAttemptsOutOfRange => "additional attempts must be between 1 and 5"
  | .notAvailableForRequeue => "outbox message is not available for requeue"
  | .maximumAttemptsExceeded => "outbox maximum attempts would exceed the safe limit"
  | .auditDetailInvalid => "audit detail value is invalid"

/-! ## Claim -/

/-- `TelegramDeliveryConfiguration`. -/
structure ProviderConfiguration where
  destinationId : Uuid
  chatId : Int
  tokenFileName : String
  deriving DecidableEq, Repr

/-- What a claim reads beside the outbox: the destinations, and for an adapter
kind the loader of its provider configuration. -/
structure ClaimContext where
  destinations : List NotificationDestination
  configurationLoaders : String → Option (Uuid → Option ProviderConfiguration)

/-- The detached claim kept by the worker. -/
structure ClaimedOutboxMessage where
  outboxId : Uuid
  incidentId : Uuid
  destinationId : Uuid
  adapterKind : String
  payload : IncidentCreatedNotificationV1
  attemptCount : Nat
  claimToken : Uuid
  providerConfiguration : Option ProviderConfiguration
  deriving DecidableEq, Repr

/-- A row the claim query accepts at `now`. -/
def claimable (now : Int) (row : OutboxMessage) : Bool :=
  row.status = .pending && row.nextAttemptAt.any (· ≤ now) && row.attemptCount < row.maxAttempts

/-- `ORDER BY next_attempt_at, created_at, id`. -/
def claimOrder (left right : OutboxMessage) : Bool :=
  let leftAt := left.nextAttemptAt.getD 0
  let rightAt := right.nextAttemptAt.getD 0
  leftAt < rightAt ||
    (leftAt == rightAt && keyLe (left.createdAt, left.id) (right.createdAt, right.id))

/-- The row the claim query selects, with `SKIP LOCKED` over the rows that
other transactions hold and the join with the destinations. -/
def selectClaim (context : ClaimContext) (locked : Uuid → Bool) (now : Int)
    (rows : List OutboxMessage) : Option (OutboxMessage × NotificationDestination) :=
  (((rows.filter fun row => claimable now row && !locked row.id).insertionSort
      (claimOrder · ·)).filterMap fun row =>
    (context.destinations.find? (·.id = row.destinationId)).map (row, ·)).head?

/-- The columns a claim writes. `onupdate` reads the clock once more for
`updated_at`; the two readings are one here. -/
def markClaimed (now lease : Int) (token : Uuid) (row : OutboxMessage) : OutboxMessage :=
  { row with
    status := .processing
    attemptCount := row.attemptCount + 1
    nextAttemptAt := none
    claimToken := some token
    claimedAt := some now
    leaseExpiresAt := some (now + lease)
    updatedAt := now }

/-- `_fail_claimed_orm`. -/
def failClaimed (now : Int) (code : OutboxErrorCode) (row : OutboxMessage) : OutboxMessage :=
  { row with
    status := .failed
    claimToken := none
    claimedAt := none
    leaseExpiresAt := none
    nextAttemptAt := none
    failedAt := some now
    lastErrorCode := some code
    lastError := some (safeError code)
    updatedAt := now }

/-- Why a claimed row is failed before any adapter sees it, or the provider
configuration to hand over. -/
def claimOutcome (context : ClaimContext) (destination : NotificationDestination)
    (row : OutboxMessage) : Except OutboxErrorCode (Option ProviderConfiguration) :=
  if !destination.enabled then .error .destinationDisabled
  else if !row.payload.validates then .error .payloadInvalid
  else
    match context.configurationLoaders destination.adapterKind with
    | none => .ok none
    | some loader =>
        match loader destination.id with
        | none => .error .destinationUnconfigured
        | some configuration => .ok (some configuration)

/-- `ClaimResult`: whether a row was processed, and the message to deliver. -/
structure ClaimResult where
  processed : Bool
  message : Option ClaimedOutboxMessage

/-- `claim_next_message`. -/
def claimNextMessage (context : ClaimContext) (locked : Uuid → Bool) (now lease : Int)
    (token : Uuid) (rows : List OutboxMessage) : List OutboxMessage × ClaimResult :=
  match selectClaim context locked now rows with
  | none => (rows, ⟨false, none⟩)
  | some (row, destination) =>
      let claimed := markClaimed now lease token row
      match claimOutcome context destination row with
      | .error code =>
          (updateWhere (·.id = row.id) (fun r => failClaimed now code (markClaimed now lease token r))
            rows, ⟨true, none⟩)
      | .ok configuration =>
          (updateWhere (·.id = row.id) (markClaimed now lease token) rows,
            ⟨true, some
              { outboxId := claimed.id
                incidentId := claimed.incidentId
                destinationId := claimed.destinationId
                adapterKind := destination.adapterKind
                payload := claimed.payload
                attemptCount := claimed.attemptCount
                claimToken := token
                providerConfiguration := configuration }⟩)

/-! ## Completions -/

/-- The three completions of a claim. -/
inductive Completion where
  | acknowledge
  | reschedule (delay : Int) (code : OutboxErrorCode)
  | failPermanently (code : OutboxErrorCode)
  deriving DecidableEq, Repr

/-- The `WHERE` clause shared by the completions. -/
def ownedBy (outboxId claimToken : Uuid) (row : OutboxMessage) : Bool :=
  row.id = outboxId && row.status = .processing && row.claimToken = some claimToken

/-- The columns that `acknowledge_delivery` writes. -/
def acknowledged (now : Int) (row : OutboxMessage) : OutboxMessage :=
  { row with
    status := .delivered
    claimToken := none
    claimedAt := none
    leaseExpiresAt := none
    nextAttemptAt := none
    deliveredAt := some now
    failedAt := none
    lastErrorCode := none
    lastError := none
    updatedAt := now }

/-- The columns that giving a lease back writes: the row is failed when its
attempts are exhausted and due again at `nextAttempt` otherwise. -/
def released (now nextAttempt : Int) (code : OutboxErrorCode) (row : OutboxMessage) :
    OutboxMessage :=
  let exhausted : Bool := row.maxAttempts ≤ row.attemptCount
  let written := if exhausted then .attemptsExhausted else code
  { row with
    status := if exhausted then .failed else .pending
    claimToken := none
    claimedAt := none
    leaseExpiresAt := none
    nextAttemptAt := if exhausted then none else some nextAttempt
    failedAt := if exhausted then some now else none
    lastErrorCode := some written
    lastError := some (safeError written)
    updatedAt := now }

/-- The columns that `fail_delivery_permanently` writes. -/
def failedPermanently (now : Int) (code : OutboxErrorCode) (row : OutboxMessage) :
    OutboxMessage :=
  { row with
    status := .failed
    claimToken := none
    claimedAt := none
    leaseExpiresAt := none
    nextAttemptAt := none
    failedAt := some now
    lastErrorCode := some code
    lastError := some (safeError code)
    updatedAt := now }

def Completion.written (now : Int) : Completion → OutboxMessage → OutboxMessage
  | .acknowledge => acknowledged now
  | .reschedule delay code => released now (now + delay) code
  | .failPermanently code => failedPermanently now code

section Written

variable (now : Int) (completion : Completion) (row : OutboxMessage)

@[simp]
theorem Completion.written_id : (completion.written now row).id = row.id := by
  cases completion <;> rfl

@[simp]
theorem Completion.written_claimToken : (completion.written now row).claimToken = none := by
  cases completion <;> rfl

@[simp]
theorem Completion.written_attemptCount :
    (completion.written now row).attemptCount = row.attemptCount := by
  cases completion <;> rfl

@[simp]
theorem Completion.written_maxAttempts :
    (completion.written now row).maxAttempts = row.maxAttempts := by
  cases completion <;> rfl

end Written

/-- A completion transaction. -/
def completeClaim (outboxId claimToken : Uuid) (now : Int) (completion : Completion)
    (rows : List OutboxMessage) : Except OutboxError (List OutboxMessage) :=
  if rows.any (ownedBy outboxId claimToken) then
    .ok (updateWhere (ownedBy outboxId claimToken) (completion.written now) rows)
  else .error .leaseLost

/-- `acknowledge_delivery`. -/
def acknowledgeDelivery (outboxId claimToken : Uuid) (now : Int) :
    List OutboxMessage → Except OutboxError (List OutboxMessage) :=
  completeClaim outboxId claimToken now .acknowledge

/-- `reschedule_delivery`. -/
def rescheduleDelivery (outboxId claimToken : Uuid) (now delay : Int) (code : OutboxErrorCode) :
    List OutboxMessage → Except OutboxError (List OutboxMessage) :=
  completeClaim outboxId claimToken now (.reschedule delay code)

/-- `fail_delivery_permanently`. -/
def failDeliveryPermanently (outboxId claimToken : Uuid) (now : Int) (code : OutboxErrorCode) :
    List OutboxMessage → Except OutboxError (List OutboxMessage) :=
  completeClaim outboxId claimToken now (.failPermanently code)

/-! ## Recovery and requeue -/

/-- A processing row whose lease has expired. -/
def leaseExpired (now : Int) (row : OutboxMessage) : Bool :=
  row.status = .processing && row.leaseExpiresAt.any (· ≤ now)

/-- `recover_expired_claims`. -/
def recoverExpiredClaims (now : Int) (rows : List OutboxMessage) : List OutboxMessage :=
  updateWhere (leaseExpired now) (released now now .leaseExpired) rows

/-- The columns that a requeue writes. -/
def requeued (now : Int) (additionalAttempts : Nat) (row : OutboxMessage) : OutboxMessage :=
  { row with
    status := .pending
    maxAttempts := row.maxAttempts + additionalAttempts
    nextAttemptAt := some now
    claimToken := none
    claimedAt := none
    leaseExpiresAt := none
    deliveredAt := none
    failedAt := none
    lastErrorCode := none
    lastError := none
    updatedAt := now }

/-- `requeue_failed_message`. The audit entry written at the end takes only
positive attempt counts. -/
def requeueFailedMessage (outboxId confirmation : Uuid) (additionalAttempts : Nat) (now : Int)
    (rows : List OutboxMessage) : Except OutboxError (List OutboxMessage) :=
  if confirmation ≠ outboxId then .error .confirmationMismatch
  else if ¬ (1 ≤ additionalAttempts ∧ additionalAttempts ≤ 5) then
    .error .additionalAttemptsOutOfRange
  else
    match rowOf OutboxMessage.id rows outboxId with
    | none => .error .notAvailableForRequeue
    | some row =>
        if row.status ≠ .failed then .error .notAvailableForRequeue
        else if 20 < row.maxAttempts + additionalAttempts then .error .maximumAttemptsExceeded
        else if row.attemptCount = 0 then .error .auditDetailInvalid
        else .ok (updateWhere (·.id = outboxId) (requeued now additionalAttempts) rows)

end WolandGuard.Outbox
