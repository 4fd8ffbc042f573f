import WolandGuard.Incidents.Database

/-!
# Enqueueing incident notifications

`application/outbox.py`: a new incident adds one outbox row for each enabled
destination whose minimum severity is not above that of the incident.
-/

set_option autoImplicit false

namespace WolandGuard.Outbox

open Detection (Severity)

/-- `_SEVERITY_RANK`. -/
def severityRank : Severity → Nat
  | .low => 1
  | .medium => 2
  | .high => 3
  | .critical => 4

inductive EnqueueError where
  | maxAttemptsOutOfRange
  | payloadInvalid
  deriving DecidableEq, Repr

/-- `build_incident_created_payload`, before validation. -/
def incidentCreatedPayload (incident : Incident) : IncidentCreatedNotificationV1 where
  incidentId := incident.id
  serverId := incident.serverId
  ruleKey := incident.ruleKey
  ruleVersion := incident.ruleVersion
  severity := incident.severity
  title := incident.title
  titleEn := incident.titleEn
  createdAt := .utc incident.createdAt

/-- `ORDER BY id`. -/
def destinationOrder (left right : NotificationDestination) : Bool :=
  left.id.toNat ≤ right.id.toNat

/-- The destinations a new incident is sent to. -/
def eligibleDestinations (destinations : List NotificationDestination) (severity : Severity) :
    List NotificationDestination :=
  ((destinations.filter (·.enabled)).insertionSort (destinationOrder · ·)).filter
    fun destination => severityRank destination.minimumSeverity ≤ severityRank severity

/-- `enqueue_incident_created_notifications`. -/
def enqueueIncidentCreatedNotifications (outboxId : Uuid → Uuid) (now : Int) (maxAttempts : Nat)
    (destinations : List NotificationDestination) (incident : Incident) :
    Except EnqueueError (List OutboxMessage) :=
  if ¬ (1 ≤ maxAttempts ∧ maxAttempts ≤ 20) then .error .maxAttemptsOutOfRange
  else
    let eligible := eligibleDestinations destinations incident.severity
    let payload := incidentCreatedPayload incident
    if eligible ≠ [] ∧ payload.validates = false then .error .payloadInvalid
    else
      .ok (eligible.map fun destination =>
        .fresh (outboxId destination.id) incident.id destination.id payload maxAttempts now)

/-- The rows that are enqueued, one for each eligible destination. -/
theorem enqueue_spec {outboxId : Uuid → Uuid} {now : Int} {maxAttempts : Nat}
    {destinations : List NotificationDestination} {incident : Incident}
    {messages : List OutboxMessage}
    (enqueued : enqueueIncidentCreatedNotifications outboxId now maxAttempts destinations incident =
      .ok messages) :
    messages.map OutboxMessage.destinationId =
        (eligibleDestinations destinations incident.severity).map NotificationDestination.id ∧
      ∀ message ∈ messages, message.incidentId = incident.id := by
  unfold enqueueIncidentCreatedNotifications at enqueued
  split at enqueued
  · cases enqueued
  dsimp only at enqueued
  split at enqueued
  · cases enqueued
  obtain rfl := Except.ok.inj enqueued
  refine ⟨by simp [OutboxMessage.fresh, Function.comp_def], fun message member => ?_⟩
  obtain ⟨destination, _, rfl⟩ := List.mem_map.mp member
  rfl

end WolandGuard.Outbox
