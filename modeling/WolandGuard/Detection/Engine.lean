import WolandGuard.Detection.Evaluate
import WolandGuard.Outbox.Enqueue

/-!
# The detection run

`run_detection` with `_persist_match`, and the insertion of a batch in front of
it. The whole of it is one transaction: any failure rolls the batch back.

Ids come from `uuid4` and instants from the clock. A transaction takes them
from a `Draws`, which gives each use its own value.
-/

set_option autoImplicit false

namespace WolandGuard.Detection

open Foundations Outbox

/-- Why an ingestion transaction is rolled back. -/
inductive IngestionFailure where
  | windowOverflow
  | integrityError
  | notification (error : EnqueueError)
  deriving DecidableEq, Repr

/-- The random ids and clock readings of one transaction. -/
structure Draws where
  eventId : Uuid → Uuid
  incidentId : Uuid → Uuid → Uuid
  historyId : Uuid → Uuid
  outboxId : Uuid → Uuid → Uuid
  now : Uuid → Uuid → Int

/-! ## Persisting a match -/

/-- The latest of the evidence times. -/
def latest (evidence : List Event) (bound : Int) : Int :=
  (evidence.map Event.occurredAt).max?.getD bound

/-- The active incident of a bucket. -/
def activeIncident (db : Database) (stored : DetectionRuleVersion) (bucket : Bucket) :
    Option Incident :=
  db.incidents.find? fun incident =>
    incident.bucket = bucket && incident.ruleKey == stored.definition.ruleKey &&
      incident.status.isActive

/-- The row of a new incident. -/
def newIncident (incidentId : Uuid) (now : Int) (stored : DetectionRuleVersion) (bucket : Bucket)
    (trigger : Event) (found : DetectionMatch) : Incident where
  id := incidentId
  serverId := bucket.serverId
  ruleVersionId := bucket.ruleVersionId
  ruleKey := stored.definition.ruleKey
  ruleVersion := stored.definition.version
  severity := stored.definition.severity
  status := .new
  title := stored.definition.title
  explanation := stored.definition.explanation
  recommendation := stored.definition.recommendation
  titleEn := stored.definition.titleEn
  explanationEn := stored.definition.explanationEn
  recommendationEn := stored.definition.recommendationEn
  correlation := found.correlation
  correlationHash := bucket.correlationHash
  ruleSnapshot := stored.definition
  firstSeenAt := earliest found.evidence trigger.occurredAt
  lastSeenAt := latest found.evidence trigger.occurredAt
  eventCount := found.evidence.length
  lockVersion := 1
  createdAt := now
  updatedAt := now

/-- `add_baseline_history`. -/
def baselineHistory (historyId : Uuid) (incident : Incident) : IncidentHistoryEntry where
  id := historyId
  incidentId := incident.id
  version := 1
  entryType := .baseline
  fromStatus := none
  toStatus := incident.status
  reason := none
  changedByOperatorId := none
  actorUsernameSnapshot := none
  authMethodType := none
  authMethodId := none
  requestId := none
  createdAt := incident.createdAt

/-- The links that are not there yet (`ON CONFLICT DO NOTHING`). -/
def newLinks (db : Database) (incidentId : Uuid) (now : Int) (evidence : List Event) :
    List IncidentEvent :=
  (evidence.filter fun event =>
    !(db.linksOf incidentId).any (·.eventId = event.id)).map fun event =>
      ⟨incidentId, event.id, now⟩

/-- The incident with its counters after the links are in. -/
def absorbed (incident : Incident) (now : Int) (trigger : Event) (evidence : List Event)
    (count : Nat) : Incident :=
  { incident with
    firstSeenAt := min incident.firstSeenAt (earliest evidence trigger.occurredAt)
    lastSeenAt := max incident.lastSeenAt (latest evidence trigger.occurredAt)
    eventCount := count
    updatedAt := now }

/-- The bucket that a trigger falls into. -/
def bucketOf (stored : DetectionRuleVersion) (trigger : Event) (correlation : Correlation) :
    Bucket :=
  ⟨trigger.serverId, stored.id, correlationHash correlation⟩

/-- `_persist_match`: the rows it writes. -/
def persistMatch (draws : Draws) (maxAttempts : Nat) (db : Database)
    (stored : DetectionRuleVersion) (trigger : Event) (bucket : Bucket) (found : DetectionMatch) :
    Except IngestionFailure Writes :=
  let now := draws.now trigger.id stored.id
  match activeIncident db stored bucket with
  | some incident =>
      let links := newLinks db incident.id now found.evidence
      let count := (db.linksOf incident.id).length + links.length
      .ok
        { events := []
          incident := some (absorbed incident now trigger found.evidence count)
          links := links
          history := []
          outbox := [] }
  | none =>
      let incident := newIncident (draws.incidentId trigger.id stored.id) now stored bucket trigger
        found
      -- the primary key and the partial unique index over active incidents
      if db.incidents.any fun other => other.id = incident.id ||
          (other.bucket = bucket && other.status.isActive) then .error .integrityError
      else
        let links := newLinks db incident.id now found.evidence
        let count := (db.linksOf incident.id).length + links.length
        match enqueueIncidentCreatedNotifications (draws.outboxId incident.id) now maxAttempts
          db.destinations incident with
        | .error error => .error (.notification error)
        | .ok outbox =>
            .ok
              { events := []
                incident := some (absorbed incident now trigger found.evidence count)
                links := links
                history := [baselineHistory (draws.historyId incident.id) incident]
                outbox := outbox }

/-! ## The run over triggers and rules -/

/-- One turn of the inner loop: the rows written for a trigger and a rule. -/
def detectOne (draws : Draws) (maxAttempts : Nat) (db : Database) (trigger : Event)
    (stored : DetectionRuleVersion) : Except IngestionFailure (Option Writes) :=
  let rule := stored.definition
  if !canTrigger rule trigger.normalized then .ok none
  else
    match correlationOf rule trigger.normalized with
    | none => .ok none
    | some correlation =>
        match windowStart rule trigger with
        | none => .error .windowOverflow
        | some _ =>
            match evaluateRule rule trigger (loadHistory db.events rule trigger) with
            | none => .ok none
            | some found =>
                (persistMatch draws maxAttempts db stored trigger
                  (bucketOf stored trigger correlation) found).map some

/-- `ORDER BY rule_key`. -/
def ruleOrder (left right : DetectionRuleVersion) : Bool := left.ruleKey ≤ right.ruleKey

/-- The active and enabled rule versions. -/
def activeRules (db : Database) : List DetectionRuleVersion :=
  (db.ruleVersions.filter fun stored => stored.isActive && stored.enabled).insertionSort
    (ruleOrder · ·)

/-- The turns of the loops: every new event in time order, with every rule. -/
def turns (rules : List DetectionRuleVersion) (newEvents : List Event) :
    List (Event × DetectionRuleVersion) :=
  (newEvents.insertionSort (Event.order · ·)).flatMap fun trigger => rules.map (trigger, ·)

/-- The turns from a point on, each one seeing what the ones before wrote. -/
def runTurns (draws : Draws) (maxAttempts : Nat) :
    List (Event × DetectionRuleVersion) → Database → Except IngestionFailure Database
  | [], db => .ok db
  | (trigger, stored) :: rest, db =>
      match detectOne draws maxAttempts db trigger stored with
      | .error failure => .error failure
      | .ok none => runTurns draws maxAttempts rest db
      | .ok (some writes) => runTurns draws maxAttempts rest (db.write writes)

/-- `run_detection`. -/
def runDetection (draws : Draws) (maxAttempts : Nat) (db : Database) (newEvents : List Event) :
    Except IngestionFailure Database :=
  runTurns draws maxAttempts (turns (activeRules db) newEvents) db

/-! ## Ingestion -/

/-- The row that is inserted for an event of a batch. -/
def eventRow (draws : Draws) (serverId : Uuid) (now : Int) (event : NormalizedEventV1) : Event where
  id := draws.eventId event.eventId
  serverId := serverId
  persistedAt := now
  normalized := event

/-- `insert_event_batch`: the rows that are new, given the table. -/
def insertEventBatch : List Event → List Event → Except IngestionFailure (List Event)
  | _, [] => .ok []
  | table, row :: rest =>
      if table.any fun other =>
          other.serverId = row.serverId && other.agentEventId = row.agentEventId then
        insertEventBatch table rest
      else if table.any (·.id = row.id) then .error .integrityError
      else (insertEventBatch (table ++ [row]) rest).map (row :: ·)

/-- The transaction of `ingest_events`, for a batch that passed
authentication and the timestamp checks. -/
def ingestEvents (draws : Draws) (maxAttempts : Nat) (serverId : Uuid) (now : Int)
    (db : Database) (batch : List NormalizedEventV1) : Except IngestionFailure Database :=
  match insertEventBatch db.events (batch.map (eventRow draws serverId now)) with
  | .error failure => .error failure
  | .ok newEvents =>
      runDetection draws maxAttempts (db.write (.ofEvents newEvents)) newEvents

end WolandGuard.Detection
