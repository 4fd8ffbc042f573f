import WolandGuard.Data.Sha256
import WolandGuard.Incidents.Database

/-!
# Incident workflow

`application/incident_workflow.py`: the state machine of incident statuses, the
normalisation of a transition request, and the transition itself with its
operator-scoped idempotency record.

The Unicode tables that `unicodedata` brings are a parameter.
-/

set_option autoImplicit false

namespace WolandGuard.Incidents

open Foundations JsonValue

/-! ## The state machine -/

/-- `_ALLOWED_TRANSITIONS`. -/
def allowedTransitions : IncidentStatus → List IncidentStatus
  | .new => [.investigating, .resolved, .falsePositive]
  | .investigating => [.resolved, .falsePositive]
  | .resolved => []
  | .falsePositive => []

/-- `is_transition_allowed`. -/
def isTransitionAllowed (current target : IncidentStatus) : Bool :=
  (allowedTransitions current).contains target

/-- The terminal statuses have no way out. -/
theorem isActive_of_allowed {current target : IncidentStatus}
    (allowed : isTransitionAllowed current target = true) : current.isActive = true := by
  cases current with
  | new => rfl
  | investigating => rfl
  | resolved => simp [isTransitionAllowed, allowedTransitions] at allowed
  | falsePositive => simp [isTransitionAllowed, allowedTransitions] at allowed

/-! ## Requests -/

/-- What `unicodedata` and the methods of `str` say about characters and
texts. -/
structure UnicodeData where
  category : Char → String
  nfc : String → String
  isSpace : Char → Bool
  isAlpha : Char → Bool
  lower : String → String
  decimal : Char → Option Nat

/-- The tables on ASCII. Characters beyond it count as unassigned. -/
def UnicodeData.ascii : UnicodeData where
  category c :=
    if c.toNat < 32 ∨ c.toNat = 127 then "Cc"
    else if 127 < c.toNat then "Cn"
    else if c.isUpper then "Lu"
    else if c.isLower then "Ll"
    else if c.isDigit then "Nd"
    else
      match c with
      | ' ' => "Zs"
      | '$' => "Sc"
      | '-' => "Pd"
      | '_' => "Pc"
      | '(' | '[' | '\x7b' => "Ps"
      | ')' | ']' | '\x7d' => "Pe"
      | '+' | '<' | '=' | '>' | '|' | '~' => "Sm"
      | '^' | '\x60' => "Sk"
      | _ => "Po"
  nfc text := text
  isSpace c := (9 ≤ c.toNat && c.toNat ≤ 13) || (28 ≤ c.toNat && c.toNat ≤ 32)
  isAlpha := Char.isAlpha
  lower := String.map Char.toLower
  decimal c := if c.isDigit then some (c.toNat - '0'.toNat) else none

inductive TransitionValidationError where
  | expectedVersionOutOfRange
  | prohibitedCharacter
  | reasonLength
  | reasonRequired
  | invalidIdempotencyKey
  deriving DecidableEq, Repr

def TransitionValidationError.message : TransitionValidationError → String
  | .expectedVersionOutOfRange => "expected_version is outside the allowed range"
  | .prohibitedCharacter => "reason contains a prohibited Unicode character"
  | .reasonLength => "reason must contain 1 to 1000 characters"
  | .reasonRequired => "reason is required for a terminal status"
  | .invalidIdempotencyKey => "invalid Idempotency-Key"

structure NormalizedTransition where
  targetStatus : IncidentStatus
  expectedVersion : Nat
  reason : Option String
  deriving DecidableEq, Repr

/-- `_reject_prohibited_reason_characters`. -/
def hasProhibitedCharacter (unicode : UnicodeData) (text : String) : Bool :=
  text.toList.any fun c => ["Cc", "Cf", "Cs", "Zl", "Zp"].contains (unicode.category c)

/-- `text.strip(" ")`. -/
def stripSpaces (text : String) : String :=
  String.ofList ((text.toList.dropWhile (· = ' ')).reverse.dropWhile (· = ' ')).reverse

/-- `normalize_reason`, for a reason that is given. -/
def normalizeReason (unicode : UnicodeData) (reason : String) :
    Except TransitionValidationError String :=
  if hasProhibitedCharacter unicode reason then .error .prohibitedCharacter
  else
    let normalized := unicode.nfc (stripSpaces reason)
    if hasProhibitedCharacter unicode normalized then .error .prohibitedCharacter
    else if ¬ (1 ≤ normalized.length ∧ normalized.length ≤ 1000) then .error .reasonLength
    else .ok normalized

/-- `normalize_transition`. -/
def normalizeTransition (unicode : UnicodeData) (targetStatus : IncidentStatus)
    (expectedVersion : Nat) (reason : Option String) :
    Except TransitionValidationError NormalizedTransition :=
  if expectedVersion < 1 ∨ 2147483647 < expectedVersion then .error .expectedVersionOutOfRange
  else
    match reason with
    | none =>
        if targetStatus.isActive then .ok ⟨targetStatus, expectedVersion, none⟩
        else .error .reasonRequired
    | some text =>
        match normalizeReason unicode text with
        | .error error => .error error
        | .ok normalized => .ok ⟨targetStatus, expectedVersion, some normalized⟩

/-- `IDEMPOTENCY_OPERATION`. -/
def idempotencyOperation : String := "incident.status.transition.v1"

/-- `canonical_transition_hash`. -/
def canonicalTransitionHash (incidentId : Uuid) (transition : NormalizedTransition) : String :=
  sha256Hex (canonicalValue (.obj [
    ("expected_version", .int transition.expectedVersion),
    ("incident_id", .str (Uuid.text incidentId)),
    ("operation", .str idempotencyOperation),
    ("reason", ofOption transition.reason),
    ("status", .str transition.targetStatus.value)]))

/-! ## Outcomes -/

structure TransitionOutcome where
  httpStatus : Nat
  responseBody : JsonValue
  replayed : Bool
  conflictType : Option String

/-- `_incident_snapshot`. -/
def incidentSnapshot (incident : Incident) : JsonValue :=
  .obj [
    ("created_at", .str (isoformat incident.createdAt)),
    ("event_count", .int incident.eventCount),
    ("first_seen_at", .str (isoformat incident.firstSeenAt)),
    ("id", .str (Uuid.text incident.id)),
    ("last_seen_at", .str (isoformat incident.lastSeenAt)),
    ("rule_key", .str incident.ruleKey),
    ("rule_version", .int incident.ruleVersion),
    ("server_id", .str (Uuid.text incident.serverId)),
    ("severity", .str incident.severity.value),
    ("status", .str incident.status.value),
    ("title", .str incident.title),
    ("updated_at", .str (isoformat incident.updatedAt)),
    ("version", .int incident.lockVersion)]

/-- `_history_snapshot`. -/
def historySnapshot (entry : IncidentHistoryEntry) : JsonValue :=
  .obj [
    ("created_at", .str (isoformat entry.createdAt)),
    ("from_status", ofOption (entry.fromStatus.map IncidentStatus.value)),
    ("id", .str (Uuid.text entry.id)),
    ("operator_id", ofOption (entry.changedByOperatorId.map fun id => Uuid.text id)),
    ("operator_username", ofOption entry.actorUsernameSnapshot),
    ("reason", ofOption entry.reason),
    ("to_status", .str entry.toStatus.value),
    ("version", .int entry.version)]

/-- `_stored_conflict_type`. -/
def storedConflictType (body : JsonValue) : Option String :=
  match body with
  | .obj members =>
      match members.lookup "conflict_type" with
      | some (.str text) => some text
      | _ => none
  | _ => none

/-! ## The transition -/

/-- What a transition request carries beside the transition. -/
structure TransitionRequest where
  actor : OperatorPrincipal
  incidentId : Uuid
  transition : NormalizedTransition
  idempotencyKey : String
  canonicalRequestHash : String
  requestId : String

/-- `load_operator_idempotency_record`. -/
def idempotencyRecord? (db : Database) (operatorId : Uuid) (key : String) :
    Option OperatorIdempotencyRecord :=
  db.idempotencyRecords.find? fun record =>
    record.operatorId = operatorId && record.idempotencyKey == key

/-- `_store_outcome`. -/
def storeOutcome (db : Database) (request : TransitionRequest) (httpStatus : Nat)
    (responseBody : JsonValue) (conflictType : Option String) : Database × TransitionOutcome :=
  ({ db with
      idempotencyRecords := db.idempotencyRecords ++ [
        { operatorId := request.actor.operatorId
          idempotencyKey := request.idempotencyKey
          operation := idempotencyOperation
          resourceId := request.incidentId
          canonicalRequestHash := request.canonicalRequestHash
          responseStatus := httpStatus
          responseBody := responseBody }] },
    ⟨httpStatus, responseBody, false, conflictType⟩)

/-- The incident after a transition. -/
def transitioned (incident : Incident) (target : IncidentStatus) (now : Int) : Incident :=
  { incident with
    status := target
    lockVersion := incident.lockVersion + 1
    updatedAt := now }

/-- The history entry of a transition. -/
def transitionHistory (historyId : Uuid) (now : Int) (request : TransitionRequest)
    (incident : Incident) : IncidentHistoryEntry where
  id := historyId
  incidentId := incident.id
  version := incident.lockVersion + 1
  entryType := .statusTransition
  fromStatus := some incident.status
  toStatus := request.transition.targetStatus
  reason := request.transition.reason
  changedByOperatorId := some request.actor.operatorId
  actorUsernameSnapshot := some request.actor.username
  authMethodType := some request.actor.authMethodType
  authMethodId := some request.actor.authMethodId
  requestId := some request.requestId
  createdAt := now

/-- The writes of a transition. -/
def transitionWrites (historyId : Uuid) (now : Int) (request : TransitionRequest)
    (incident : Incident) : Writes where
  events := []
  incident := some (transitioned incident request.transition.targetStatus now)
  links := []
  history := [transitionHistory historyId now request incident]
  outbox := []

/-- `transition_incident`. -/
def transitionIncident (historyId : Uuid) (now : Int) (db : Database)
    (request : TransitionRequest) : Database × TransitionOutcome :=
  match idempotencyRecord? db request.actor.operatorId request.idempotencyKey with
  | some existing =>
      if existing.canonicalRequestHash == request.canonicalRequestHash then
        (db, ⟨existing.responseStatus, existing.responseBody, true,
          storedConflictType existing.responseBody⟩)
      else
        (db, ⟨409, .obj [("detail", .str "Idempotency-Key was already used for another request")],
          false, some "idempotency_key_reused"⟩)
  | none =>
      match db.incident? request.incidentId with
      | none =>
          storeOutcome db request 404
            (.obj [("detail", .str "incident not found"), ("conflict_type", .str "not_found")])
            (some "not_found")
      | some incident =>
          if incident.lockVersion ≠ request.transition.expectedVersion then
            storeOutcome db request 409
              (.obj [
                ("detail", .str "incident version conflict"),
                ("conflict_type", .str "stale_version"),
                ("current_version", .int incident.lockVersion)])
              (some "stale_version")
          else if !isTransitionAllowed incident.status request.transition.targetStatus then
            storeOutcome db request 409
              (.obj [
                ("detail", .str "incident status transition is not allowed"),
                ("conflict_type", .str "transition_not_allowed")])
              (some "transition_not_allowed")
          else
            storeOutcome (db.write (transitionWrites historyId now request incident)) request 200
              (.obj [
                ("incident", incidentSnapshot
                  (transitioned incident request.transition.targetStatus now)),
                ("transition", historySnapshot (transitionHistory historyId now request incident))])
              none

/-- A transition is applied. -/
structure Applies (db : Database) (request : TransitionRequest) (incident : Incident) : Prop where
  unused : idempotencyRecord? db request.actor.operatorId request.idempotencyKey = none
  found : db.incident? request.incidentId = some incident
  current : incident.lockVersion = request.transition.expectedVersion
  allowed : isTransitionAllowed incident.status request.transition.targetStatus = true

/-- **A transition request writes a transition that applies, or at most its
idempotency record.** -/
theorem transitionIncident_cases (historyId : Uuid) (now : Int) (db : Database)
    (request : TransitionRequest) :
    (∃ records, (transitionIncident historyId now db request).1 =
        { db with idempotencyRecords := records } ∧
      ∀ incident, ¬ Applies db request incident) ∨
    ∃ incident records, Applies db request incident ∧
      (transitionIncident historyId now db request).1 =
        { db.write (transitionWrites historyId now request incident) with
          idempotencyRecords := records } := by
  unfold transitionIncident
  split
  next existing used =>
    refine .inl ⟨db.idempotencyRecords, by split <;> rfl, fun incident applies => ?_⟩
    simp [applies.unused] at used
  next unused =>
    split
    next missing =>
      refine .inl ⟨_, rfl, fun incident applies => ?_⟩
      simp [applies.found] at missing
    next incident found =>
      split
      next stale =>
        refine .inl ⟨_, rfl, fun other applies => ?_⟩
        obtain rfl := Option.some.inj (found.symm.trans applies.found)
        exact stale applies.current
      next current =>
        split
        next refused =>
          refine .inl ⟨_, rfl, fun other applies => ?_⟩
          obtain rfl := Option.some.inj (found.symm.trans applies.found)
          simp [applies.allowed] at refused
        next allowed =>
          exact .inr ⟨incident, _, ⟨unused, found, not_not.mp current, by simpa using allowed⟩, rfl⟩

end WolandGuard.Incidents
