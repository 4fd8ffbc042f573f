import WolandGuard.Data.IsoFormat
import WolandGuard.Detection.Rules

/-!
# Outbox rows

The tables of `infrastructure/database/models/outbox.py`: notification
destinations and the outbox messages addressed to them, with the payload that
`application/outbox.py` builds and the worker validates again at claim time.
-/

set_option autoImplicit false

namespace WolandGuard.Outbox

open Detection (Severity)

inductive OutboxStatus where
  | pending
  | processing
  | delivered
  | failed
  deriving DecidableEq, Repr

inductive OutboxErrorCode where
  | adapterUnexpectedError
  | attemptsExhausted
  | destinationDisabled
  | destinationUnconfigured
  | leaseExpired
  | payloadInvalid
  | permanentDeliveryError
  | retryableDeliveryError
  | telegramProtocolError
  | telegramRuntimeCopyInvalid
  | telegramRuntimeCopyUnavailable
  | telegramStagingFileInvalid
  | telegramStagingFileMissing
  deriving DecidableEq, Repr

/-- `_ERROR_MESSAGES`. -/
def safeError : OutboxErrorCode → String
  | .adapterUnexpectedError => "Delivery adapter failed unexpectedly."
  | .attemptsExhausted => "Delivery attempt limit was exhausted."
  | .destinationDisabled => "Notification destination is disabled."
  | .destinationUnconfigured => "Notification destination is not configured."
  | .leaseExpired => "Delivery claim lease expired."
  | .payloadInvalid => "Notification payload is invalid."
  | .permanentDeliveryError => "Delivery was rejected permanently."
  | .retryableDeliveryError => "Delivery failed temporarily."
  | .telegramProtocolError => "Telegram response was not valid."
  | .telegramRuntimeCopyInvalid => "Telegram runtime token copy is invalid."
  | .telegramRuntimeCopyUnavailable => "Telegram runtime token copy is unavailable."
  | .telegramStagingFileInvalid => "Telegram staging token file is invalid."
  | .telegramStagingFileMissing => "Telegram staging token file is missing."

/-- Routing policy of one destination. -/
structure NotificationDestination where
  id : Uuid
  adapterKind : String
  enabled : Bool
  minimumSeverity : Severity
  deriving DecidableEq, Repr

/-- The stored payload, before validation. Its time has an offset, which is that of
UTC in every payload that is enqueued. -/
structure IncidentCreatedNotificationV1 where
  incidentId : Uuid
  serverId : Uuid
  ruleKey : String
  ruleVersion : Nat
  severity : Severity
  title : String
  titleEn : Option String
  createdAt : AwareDatetime
  deriving DecidableEq, Repr

/-- Text without U+0000, as `reject_nul` asks. -/
def hasNul (text : String) : Bool := text.toList.any (·.toNat = 0)

/-- `IncidentCreatedNotificationV1.model_validate`. -/
def IncidentCreatedNotificationV1.validates (payload : IncidentCreatedNotificationV1) : Bool :=
  (1 ≤ payload.ruleKey.length && payload.ruleKey.length ≤ 100 && !hasNul payload.ruleKey) &&
  0 < payload.ruleVersion &&
  (1 ≤ payload.title.length && payload.title.length ≤ 255 && !hasNul payload.title) &&
  payload.titleEn.all fun text => 1 ≤ text.length && text.length ≤ 255 && !hasNul text

structure OutboxMessage where
  id : Uuid
  incidentId : Uuid
  destinationId : Uuid
  payload : IncidentCreatedNotificationV1
  status : OutboxStatus
  attemptCount : Nat
  maxAttempts : Nat
  nextAttemptAt : Option Int
  claimToken : Option Uuid
  claimedAt : Option Int
  leaseExpiresAt : Option Int
  deliveredAt : Option Int
  failedAt : Option Int
  lastErrorCode : Option OutboxErrorCode
  lastError : Option String
  createdAt : Int
  updatedAt : Int
  deriving DecidableEq, Repr

/-- A new row with the column defaults. -/
def OutboxMessage.fresh (id incidentId destinationId : Uuid)
    (payload : IncidentCreatedNotificationV1) (maxAttempts : Nat) (now : Int) : OutboxMessage where
  id := id
  incidentId := incidentId
  destinationId := destinationId
  payload := payload
  status := .pending
  attemptCount := 0
  maxAttempts := maxAttempts
  nextAttemptAt := some now
  claimToken := none
  claimedAt := none
  leaseExpiresAt := none
  deliveredAt := none
  failedAt := none
  lastErrorCode := none
  lastError := none
  createdAt := now
  updatedAt := now

end WolandGuard.Outbox
