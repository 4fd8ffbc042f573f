import WolandGuard.Data.Json
import WolandGuard.Detection.Rules
import WolandGuard.Outbox.Message

/-!
# Events, incidents and their history

The rows of `infrastructure/database/models/event.py`, `detection.py` and
`workflow.py`, and the database they live in.
-/

set_option autoImplicit false

namespace WolandGuard

open Detection (Severity RuleDefinition FieldPath)

/-! ## Events -/

inductive EventSource where
  | journald
  | syslogFile
  | nginxAccess
  | fileIntegrity
  deriving DecidableEq, Repr

/-- One event of an agent. `payload` is its `model_dump(mode="json")`. -/
structure NormalizedEventV1 where
  eventId : Uuid
  schemaVersion : Nat
  source : EventSource
  eventType : String
  occurredAt : Int
  collectedAt : Int
  payload : JsonValue

/-- A stored event. -/
structure Event where
  id : Uuid
  serverId : Uuid
  persistedAt : Int
  normalized : NormalizedEventV1

namespace Event

abbrev agentEventId (event : Event) : Uuid := event.normalized.eventId

abbrev eventType (event : Event) : String := event.normalized.eventType

abbrev occurredAt (event : Event) : Int := event.normalized.occurredAt

abbrev payload (event : Event) : JsonValue := event.normalized.payload

/-- The sort key `(occurred_at, id)`. -/
def key (event : Event) : Int × Uuid := (event.occurredAt, event.id)

/-- `ORDER BY occurred_at, id`. -/
def order (left right : Event) : Bool := keyLe left.key right.key

end Event

/-! ## Incidents -/

/-- A stored rule version, with its definition as it validates. -/
structure DetectionRuleVersion where
  id : Uuid
  ruleKey : String
  version : Nat
  enabled : Bool
  severity : Severity
  checksum : String
  definition : RuleDefinition
  isActive : Bool
  createdAt : Int
  activatedAt : Option Int

inductive IncidentStatus where
  | new
  | investigating
  | resolved
  | falsePositive
  deriving DecidableEq, Repr

namespace IncidentStatus

def value : IncidentStatus → String
  | .new => "new"
  | .investigating => "investigating"
  | .resolved => "resolved"
  | .falsePositive => "false_positive"

/-- The statuses of the partial unique index. -/
def isActive : IncidentStatus → Bool
  | .new => true
  | .investigating => true
  | .resolved => false
  | .falsePositive => false

end IncidentStatus

/-- The correlation values of an incident, by field. -/
abbrev Correlation := List (FieldPath × JsonValue)

structure Incident where
  id : Uuid
  serverId : Uuid
  ruleVersionId : Uuid
  ruleKey : String
  ruleVersion : Nat
  severity : Severity
  status : IncidentStatus
  title : String
  explanation : String
  recommendation : String
  titleEn : Option String
  explanationEn : Option String
  recommendationEn : Option String
  correlation : Correlation
  correlationHash : String
  ruleSnapshot : RuleDefinition
  firstSeenAt : Int
  lastSeenAt : Int
  eventCount : Nat
  lockVersion : Nat
  createdAt : Int
  updatedAt : Int

/-- The bucket of a correlation: server, rule version and correlation hash. -/
structure Bucket where
  serverId : Uuid
  ruleVersionId : Uuid
  correlationHash : String
  deriving DecidableEq, Repr

def Incident.bucket (incident : Incident) : Bucket :=
  ⟨incident.serverId, incident.ruleVersionId, incident.correlationHash⟩

/-- A new incident of the shipped brute-force rule, with a public source
address. -/
def sampleIncident : Incident where
  id := 1
  serverId := 1
  ruleVersionId := 100
  ruleKey := Detection.sshBruteforceByIp.ruleKey
  ruleVersion := Detection.sshBruteforceByIp.version
  severity := .high
  status := .new
  title := Detection.sshBruteforceByIp.title
  explanation := Detection.sshBruteforceByIp.explanation
  recommendation := Detection.sshBruteforceByIp.recommendation
  titleEn := none
  explanationEn := none
  recommendationEn := none
  correlation := [(["source_ip"], .str "8.8.8.8")]
  correlationHash := ""
  ruleSnapshot := Detection.sshBruteforceByIp
  firstSeenAt := 0
  lastSeenAt := 0
  eventCount := 8
  lockVersion := 1
  createdAt := 0
  updatedAt := 0

/-- One evidence link. -/
structure IncidentEvent where
  incidentId : Uuid
  eventId : Uuid
  linkedAt : Int
  deriving DecidableEq, Repr

inductive HistoryEntryType where
  | baseline
  | statusTransition
  deriving DecidableEq, Repr

inductive OperatorAuthMethodType where
  | operatorApiKey
  | webSession
  | telegram
  deriving DecidableEq, Repr

structure IncidentHistoryEntry where
  id : Uuid
  incidentId : Uuid
  version : Nat
  entryType : HistoryEntryType
  fromStatus : Option IncidentStatus
  toStatus : IncidentStatus
  reason : Option String
  changedByOperatorId : Option Uuid
  actorUsernameSnapshot : Option String
  authMethodType : Option OperatorAuthMethodType
  authMethodId : Option Uuid
  requestId : Option String
  createdAt : Int
  deriving DecidableEq, Repr

end WolandGuard
