import WolandGuard.Detection.Transactions

/-!
# Requests of operators as transactions

`transition_incident` and `add_incident_comment` statement by statement, and
the installation in which they run beside ingestion. Both take the advisory
lock of the operator and the key, look the key up, and store their outcome in
the same transaction.

A transition comes from the API or the dashboard, which normalise it, or from
Telegram: a press that asks for no reason, or a message with a reason.
-/

set_option autoImplicit false

namespace WolandGuard.Incidents

open Foundations JsonValue

/-! ## Submitted requests -/

/-- `_IDEMPOTENCY_KEY_PATTERN`. -/
def isIdempotencyKey (value : String) : Bool :=
  match value.toList with
  | [] => false
  | first :: rest =>
      first.isAlphanum && rest.length ≤ 127 &&
        rest.all fun c => c.isAlphanum || c = '.' || c = '_' || c = ':' || c = '-'

/-- The request for a transition. -/
def transitionRequestOf (actor : OperatorPrincipal) (incidentId : Uuid)
    (transition : NormalizedTransition) (idempotencyKey requestId : String) :
    TransitionRequest where
  actor := actor
  incidentId := incidentId
  transition := transition
  idempotencyKey := idempotencyKey
  canonicalRequestHash := canonicalTransitionHash incidentId transition
  requestId := requestId

/-- The requests that the three front ends make. -/
inductive Submitted (unicode : UnicodeData) : TransitionRequest → Prop where
  /-- The API and the dashboard. -/
  | form {actor : OperatorPrincipal} {incidentId : Uuid} {targetStatus : IncidentStatus}
      {expectedVersion : Nat} {reason : Option String} {transition : NormalizedTransition}
      {idempotencyKey requestId : String} : isIdempotencyKey idempotencyKey = true →
      normalizeTransition unicode targetStatus expectedVersion reason = .ok transition →
      Submitted unicode (transitionRequestOf actor incidentId transition idempotencyKey requestId)
  /-- A press in Telegram. -/
  | press {actor : OperatorPrincipal} {incidentId : Uuid} {expectedVersion : Nat}
      {idempotencyKey requestId : String} :
      Submitted unicode (transitionRequestOf actor incidentId ⟨.investigating, expectedVersion, none⟩
        idempotencyKey requestId)
  /-- A reason that is sent in Telegram. -/
  | reason {actor : OperatorPrincipal} {incidentId : Uuid} {targetStatus : IncidentStatus}
      {expectedVersion : Nat} {text reason idempotencyKey requestId : String} :
      normalizeReason unicode text = .ok reason →
      Submitted unicode (transitionRequestOf actor incidentId
        ⟨targetStatus, expectedVersion, some reason⟩ idempotencyKey requestId)

/-- A transition into a terminal status has a reason. -/
theorem Submitted.reasoned {unicode : UnicodeData} {request : TransitionRequest}
    (submitted : Submitted unicode request)
    (terminal : request.transition.targetStatus.isActive = false) :
    request.transition.reason.isSome = true := by
  cases submitted with
  | @form actor incidentId targetStatus expectedVersion reason transition _ _ _ normalized =>
      unfold normalizeTransition at normalized
      split at normalized
      · cases normalized
      split at normalized
      · split at normalized
        next active =>
          obtain rfl := Except.ok.inj normalized
          exact absurd terminal (by simpa [transitionRequestOf] using active)
        · cases normalized
      · split at normalized
        · cases normalized
        · obtain rfl := Except.ok.inj normalized
          rfl
  | press => cases terminal
  | reason _ => rfl

/-- The hash of a submitted request is that of its canonical request. -/
theorem Submitted.canonicalRequestHash {unicode : UnicodeData} {request : TransitionRequest}
    (submitted : Submitted unicode request) :
    request.canonicalRequestHash =
      canonicalTransitionHash request.incidentId request.transition := by
  cases submitted <;> rfl

/-- A request that a front end makes. -/
structure SubmittedTransition (unicode : UnicodeData) where
  request : TransitionRequest
  submitted : Submitted unicode request

namespace Concurrent

/-! ## A transition -/

section Transition

variable (request : TransitionRequest)

/-- The answer from a stored record. -/
def replayTransition (existing : OperatorIdempotencyRecord) : TransitionOutcome :=
  if existing.canonicalRequestHash == request.canonicalRequestHash then
    ⟨existing.responseStatus, existing.responseBody, true,
      storedConflictType existing.responseBody⟩
  else
    ⟨409, .obj [("detail", .str "Idempotency-Key was already used for another request")], false,
      some "idempotency_key_reused"⟩

/-- The record of a transition request. -/
def transitionRecord (httpStatus : Nat) (responseBody : JsonValue) : OperatorIdempotencyRecord where
  operatorId := request.actor.operatorId
  idempotencyKey := request.idempotencyKey
  operation := idempotencyOperation
  resourceId := request.incidentId
  canonicalRequestHash := request.canonicalRequestHash
  responseStatus := httpStatus
  responseBody := responseBody

/-- `_store_outcome`, and the end of the transaction. -/
def refuseTransition (httpStatus : Nat) (responseBody : JsonValue) (conflictType : String) :
    WorkflowProgram :=
  .commit
    (fun state =>
      { state with
        tables := (storeOutcome state.tables request httpStatus responseBody conflictType).1 })
    (.transition ⟨httpStatus, responseBody, false, some conflictType⟩)

def transitionNotFound : WorkflowProgram :=
  refuseTransition request 404
    (.obj [("detail", .str "incident not found"), ("conflict_type", .str "not_found")]) "not_found"

variable (historyId auditId : Uuid) (now : Int)

/-- The details of the audit entry. -/
def transitionDetails (incident : Incident) : List (String × JsonValue) :=
  [("from_status", .str incident.status.value),
    ("from_version", .int incident.lockVersion),
    ("history_id", .str (Uuid.text historyId)),
    ("to_status", .str request.transition.targetStatus.value),
    ("to_version", .int (incident.lockVersion + 1))]

/-- The response to an applied transition. -/
def transitionBody (incident : Incident) : JsonValue :=
  .obj [
    ("incident", incidentSnapshot (transitioned incident request.transition.targetStatus now)),
    ("transition", historySnapshot (transitionHistory historyId now request incident))]

/-- The tables after an applied transition. -/
def transitionApplied (incident : Incident) (entry : AuditLogEntry) (state : WorkflowTables) :
    WorkflowTables :=
  { state with
    tables := (storeOutcome (state.tables.write (transitionWrites historyId now request incident))
      request 200 (transitionBody request historyId now incident) none).1
    auditLog := state.auditLog ++ [entry] }

/-- `transition_incident` on a row that allows the transition. -/
def applyTransition (incident : Incident) : WorkflowProgram :=
  .claim (.history historyId) (fun state => hasHistory state.tables.history historyId)
    (match recordOperatorAction auditId now request.actor "incident.status_changed" "incident"
        incident.id request.requestId (some historyId)
        (transitionDetails request historyId incident) with
    | .error _ => .rollback
    | .ok entry =>
        .commit (transitionApplied request historyId now incident entry)
          (.transition ⟨200, transitionBody request historyId now incident, false, none⟩))
    .rollback

/-- `transition_incident` on the row that it has locked. -/
def decideTransition (incident : Incident) : WorkflowProgram :=
  if incident.lockVersion ≠ request.transition.expectedVersion then
    refuseTransition request 409
      (.obj [
        ("detail", .str "incident version conflict"),
        ("conflict_type", .str "stale_version"),
        ("current_version", .int incident.lockVersion)])
      "stale_version"
  else if !isTransitionAllowed incident.status request.transition.targetStatus then
    refuseTransition request 409
      (.obj [
        ("detail", .str "incident status transition is not allowed"),
        ("conflict_type", .str "transition_not_allowed")])
      "transition_not_allowed"
  else applyTransition request historyId auditId now incident

/-- `transition_incident`. -/
def transitionIncident : WorkflowProgram :=
  .lock (idempotencyLock request.actor.operatorId request.idempotencyKey) (.read fun state =>
    match idempotencyRecord? state.tables request.actor.operatorId request.idempotencyKey with
    | some existing => .commit id (.transition (replayTransition request existing))
    | none =>
        .peek fun state =>
          match state.tables.incident? request.incidentId with
          | none => transitionNotFound request
          | some _ =>
              .lock (.incident request.incidentId) (.read fun state =>
                match state.tables.incident? request.incidentId with
                | none => transitionNotFound request
                | some incident => decideTransition request historyId auditId now incident))

end Transition

/-! ## A comment -/

section Comment

variable (request : CommentRequest)

/-- The answer from a stored record. -/
def replayComment (existing : OperatorIdempotencyRecord) : CommentOutcome :=
  if existing.operation == commentIdempotencyOperation &&
      existing.canonicalRequestHash ==
        canonicalCommentHash request.incidentId request.comment then
    ⟨existing.responseStatus, existing.responseBody, true,
      storedConflictType existing.responseBody⟩
  else
    ⟨409, .obj [("detail", .str "Idempotency-Key was already used for another request")], false,
      some "idempotency_key_reused"⟩

/-- The record of a comment request. -/
def commentRecord (httpStatus : Nat) (responseBody : JsonValue) : OperatorIdempotencyRecord where
  operatorId := request.actor.operatorId
  idempotencyKey := request.idempotencyKey
  operation := commentIdempotencyOperation
  resourceId := request.incidentId
  canonicalRequestHash := canonicalCommentHash request.incidentId request.comment
  responseStatus := httpStatus
  responseBody := responseBody

/-- `_store_outcome`. -/
def storeCommentOutcome (db : Database) (httpStatus : Nat) (responseBody : JsonValue) :
    Database :=
  { db with
    idempotencyRecords :=
      db.idempotencyRecords ++ [commentRecord request httpStatus responseBody] }

/-- The response to a comment on no incident. -/
def commentMissing : JsonValue :=
  .obj [("detail", .str "incident not found"), ("conflict_type", .str "not_found")]

def commentNotFound : WorkflowProgram :=
  .commit
    (fun state =>
      { state with tables := storeCommentOutcome request state.tables 404 commentMissing })
    (.comment ⟨404, commentMissing, false, some "not_found"⟩)

variable (commentId auditId : Uuid) (now : Int)

/-- The response to a comment. -/
def commentBody : JsonValue :=
  .obj [
    ("comment_id", .str (Uuid.text commentId)),
    ("created_at", .str (isoformat now)),
    ("incident_id", .str (Uuid.text request.incidentId))]

/-- The tables after a comment. -/
def commentAdded (entry : AuditLogEntry) (state : WorkflowTables) : WorkflowTables where
  tables := storeCommentOutcome request state.tables 200 (commentBody request commentId now)
  comments := state.comments ++ [storedComment commentId now request]
  auditLog := state.auditLog ++ [entry]

/-- `add_incident_comment`. -/
def addIncidentComment : WorkflowProgram :=
  .lock (idempotencyLock request.actor.operatorId request.idempotencyKey) (.read fun state =>
    match idempotencyRecord? state.tables request.actor.operatorId request.idempotencyKey with
    | some existing => .commit id (.comment (replayComment request existing))
    | none =>
        .peek fun state =>
          match state.tables.incident? request.incidentId with
          | none => commentNotFound request
          | some _ =>
              -- the primary key
              if state.comments.any (·.id = commentId) then .rollback
              else
                match recordOperatorAction auditId now request.actor "incident.comment_added"
                    "incident_comment" commentId request.requestId none
                    [("incident_id", .str (Uuid.text request.incidentId))] with
                | .error _ => .rollback
                | .ok entry =>
                    .commit (commentAdded request commentId now entry)
                      (.comment ⟨200, commentBody request commentId now, false, none⟩))

end Comment

/-! ## The installation -/

/-- A request of an operator, a batch of an agent, or a change of the rules
and the destinations. -/
inductive Operation (unicode : UnicodeData) where
  | transition (submitted : SubmittedTransition unicode) (historyId auditId : Uuid) (now : Int)
  | comment (request : CommentRequest) (commentId auditId : Uuid) (now : Int)
  | ingest (draws : Detection.Draws) (maxAttempts : Nat) (serverId : Uuid) (now : Int)
      (batch : List NormalizedEventV1)
  | configure (ruleVersions : List DetectionRuleVersion)
      (destinations : List Outbox.NotificationDestination)

/-- The transaction of an operation. -/
def Operation.code {unicode : UnicodeData} : Operation unicode → WorkflowProgram
  | .transition submitted historyId auditId now =>
      transitionIncident submitted.request historyId auditId now
  | .comment request commentId auditId now => addIncidentComment request commentId auditId now
  | .ingest draws maxAttempts serverId now batch =>
      Detection.Concurrent.ingestEvents draws maxAttempts serverId now batch
  | .configure ruleVersions destinations =>
      .commit
        (fun state =>
          { state with
            tables := { state.tables with
              ruleVersions := ruleVersions
              destinations := destinations } })
        .configured

/-- The installation: its tables and the operations under way. -/
abbrev Installation (unicode : UnicodeData) :=
  Transactions (Operation unicode) WorkflowTables LockKey Answer

/-- A recorded step of the installation. -/
abbrev Moved (unicode : UnicodeData) :=
  Taken (Installation unicode) (Move (Operation unicode) Answer)

/-- A recorded commit: the operation with its answer. -/
abbrev Served (unicode : UnicodeData) := Taken WorkflowTables (Operation unicode × Answer)

/-! ## What a request does -/

section Performs

variable {state after : WorkflowTables} {answer : Answer}

/-- A refusal of a transition, with the row that it is about. A request may miss
an incident that is not committed yet. -/
inductive TransitionRefusal (request : TransitionRequest) (state : WorkflowTables) :
    Nat → JsonValue → String → Prop where
  | notFound :
      TransitionRefusal request state 404
        (.obj [("detail", .str "incident not found"), ("conflict_type", .str "not_found")])
        "not_found"
  | stale (incident : Incident) : state.tables.incident? request.incidentId = some incident →
      incident.lockVersion ≠ request.transition.expectedVersion →
      TransitionRefusal request state 409
        (.obj [
          ("detail", .str "incident version conflict"),
          ("conflict_type", .str "stale_version"),
          ("current_version", .int incident.lockVersion)])
        "stale_version"
  | notAllowed (incident : Incident) : state.tables.incident? request.incidentId = some incident →
      incident.lockVersion = request.transition.expectedVersion →
      isTransitionAllowed incident.status request.transition.targetStatus = false →
      TransitionRefusal request state 409
        (.obj [
          ("detail", .str "incident status transition is not allowed"),
          ("conflict_type", .str "transition_not_allowed")])
        "transition_not_allowed"

theorem TransitionRefusal.storedConflictType {request : TransitionRequest} {httpStatus : Nat}
    {responseBody : JsonValue} {conflictType : String}
    (refusal : TransitionRefusal request state httpStatus responseBody conflictType) :
    Incidents.storedConflictType responseBody = some conflictType := by
  cases refusal <;> rfl

/-- The three ways a transition request ends: from a stored record, refused
with a record of the refusal, or applied. -/
inductive TransitionEffect (request : TransitionRequest) (historyId auditId : Uuid) (now : Int)
    (state : WorkflowTables) : WorkflowTables → TransitionOutcome → Prop where
  | replayed (existing : OperatorIdempotencyRecord) :
      idempotencyRecord? state.tables request.actor.operatorId request.idempotencyKey =
        some existing →
      TransitionEffect request historyId auditId now state state
        (replayTransition request existing)
  | refused (httpStatus : Nat) (responseBody : JsonValue) (conflictType : String) :
      idempotencyRecord? state.tables request.actor.operatorId request.idempotencyKey = none →
      TransitionRefusal request state httpStatus responseBody conflictType →
      TransitionEffect request historyId auditId now state
        { state with
          tables := (storeOutcome state.tables request httpStatus responseBody conflictType).1 }
        ⟨httpStatus, responseBody, false, some conflictType⟩
  | applied (incident : Incident) (entry : AuditLogEntry) :
      Applies state.tables request incident → hasHistory state.tables.history historyId = false →
      recordOperatorAction auditId now request.actor "incident.status_changed" "incident"
        incident.id request.requestId (some historyId)
        (transitionDetails request historyId incident) = .ok entry →
      TransitionEffect request historyId auditId now state
        (transitionApplied request historyId now incident entry state)
        ⟨200, transitionBody request historyId now incident, false, none⟩

theorem decideTransition_performs {request : TransitionRequest} {historyId auditId : Uuid}
    {now : Int} {incident : Incident}
    (unused : idempotencyRecord? state.tables request.actor.operatorId request.idempotencyKey = none)
    (found : state.tables.incident? request.incidentId = some incident)
    (performs : (decideTransition request historyId auditId now incident).Performs state after
      answer) :
    ∃ outcome, answer = .transition outcome ∧
      TransitionEffect request historyId auditId now state after outcome := by
  unfold decideTransition at performs
  split at performs
  next stale =>
    cases performs with
    | commit => exact ⟨_, rfl, .refused _ _ _ unused (.stale incident found stale)⟩
  next current =>
    have current := not_not.mp current
    split at performs
    next refused =>
      cases performs with
      | commit =>
          exact ⟨_, rfl, .refused _ _ _ unused (.notAllowed incident found current
            (by simpa using refused))⟩
    next allowed =>
      unfold applyTransition at performs
      cases performs with
      | claimUsed performs => cases performs
      | claimFree fresh performs =>
          split at performs
          · cases performs
          next entry recorded =>
            cases performs with
            | commit =>
                exact ⟨_, rfl, .applied incident entry
                  ⟨unused, found, current, by simpa using allowed⟩ fresh recorded⟩

/-- **What a transition request does.** -/
theorem transitionIncident_performs {request : TransitionRequest} {historyId auditId : Uuid}
    {now : Int}
    (performs : (transitionIncident request historyId auditId now).Performs state after answer) :
    ∃ outcome, answer = .transition outcome ∧
      TransitionEffect request historyId auditId now state after outcome := by
  unfold transitionIncident at performs
  cases performs with
  | lock performs =>
      cases performs with
      | read performs =>
          dsimp only at performs
          split at performs
          next existing used =>
            cases performs with
            | commit => exact ⟨_, rfl, .replayed existing used⟩
          next unused =>
            cases performs with
            | peek seen performs =>
                dsimp only at performs
                split at performs
                · cases performs with
                  | commit => exact ⟨_, rfl, .refused _ _ _ unused .notFound⟩
                · cases performs with
                  | lock performs =>
                      cases performs with
                      | read performs =>
                          dsimp only at performs
                          split at performs
                          · cases performs with
                            | commit => exact ⟨_, rfl, .refused _ _ _ unused .notFound⟩
                          next incident found =>
                            exact decideTransition_performs unused found performs

/-- A request that finds its row decides on it. -/
theorem performs_located {request : TransitionRequest} {historyId auditId : Uuid} {now : Int}
    {incident : Incident}
    (unused : idempotencyRecord? state.tables request.actor.operatorId request.idempotencyKey = none)
    (found : state.tables.incident? request.incidentId = some incident)
    (decided : (decideTransition request historyId auditId now incident).Performs state after
      answer) :
    (transitionIncident request historyId auditId now).Performs state after answer := by
  unfold transitionIncident
  refine .lock (.read ?_)
  rw [unused]
  refine .peek state ?_
  rw [found]
  refine .lock (.read ?_)
  rw [found]
  exact decided

/-- Every such effect is one of the request. -/
theorem performs_transitionIncident {request : TransitionRequest} {historyId auditId : Uuid}
    {now : Int} {outcome : TransitionOutcome}
    (effect : TransitionEffect request historyId auditId now state after outcome) :
    (transitionIncident request historyId auditId now).Performs state after
      (.transition outcome) := by
  cases effect with
  | replayed existing used =>
      unfold transitionIncident
      refine .lock (.read ?_)
      rw [used]
      exact .commit
  | refused httpStatus body conflictType unused refusal =>
      cases refusal with
      | notFound =>
          unfold transitionIncident
          refine .lock (.read ?_)
          rw [unused]
          exact .peek (.installed [] []) .commit
      | stale incident found stale =>
          refine performs_located unused found ?_
          unfold decideTransition
          rw [if_pos stale]
          exact .commit
      | notAllowed incident found current refused =>
          refine performs_located unused found ?_
          unfold decideTransition
          rw [if_neg (not_not.mpr current), if_pos (by simp [refused])]
          exact .commit
  | applied incident entry applies fresh recorded =>
      refine performs_located applies.unused applies.found ?_
      unfold decideTransition
      rw [if_neg (not_not.mpr applies.current), if_neg (by simp [applies.allowed])]
      refine .claimFree fresh ?_
      rw [recorded]
      exact .commit

/-- **A transition that commits by itself is `transition_incident`.** -/
theorem transitionIncident_alone {request : TransitionRequest} {historyId auditId : Uuid}
    {now : Int} (ran : (transitionIncident request historyId auditId now).alone state =
      (after, some answer)) :
    (after.tables, answer) =
      Prod.map id Answer.transition
        (Incidents.transitionIncident historyId now state.tables request) := by
  simp only [transitionIncident, Program.alone, Incidents.transitionIncident] at ran ⊢
  cases record : idempotencyRecord? state.tables request.actor.operatorId
      request.idempotencyKey with
  | some existing =>
      simp only [record, Program.alone, Prod.mk.injEq, Option.some.injEq] at ran
      obtain ⟨rfl, rfl⟩ := ran
      simp only [replayTransition]
      split <;> rfl
  | none =>
      simp only [record, Program.alone] at ran ⊢
      cases row : state.tables.incident? request.incidentId with
      | none =>
          simp only [row, transitionNotFound, refuseTransition, Program.alone, Prod.mk.injEq,
            Option.some.injEq] at ran
          obtain ⟨rfl, rfl⟩ := ran
          rfl
      | some incident =>
          simp only [row, Program.alone, decideTransition] at ran ⊢
          split at ran
          next stale =>
            simp only [refuseTransition, Program.alone, Prod.mk.injEq, Option.some.injEq] at ran
            obtain ⟨rfl, rfl⟩ := ran
            rw [if_pos stale]
            rfl
          next current =>
            rw [if_neg current]
            split at ran
            next refused =>
              simp only [refuseTransition, Program.alone, Prod.mk.injEq, Option.some.injEq] at ran
              obtain ⟨rfl, rfl⟩ := ran
              rw [if_pos refused]
              rfl
            next allowed =>
              rw [if_neg allowed]
              simp only [applyTransition, Program.alone] at ran
              split at ran
              · cases ran
              split at ran
              · cases ran
              · simp only [Program.alone, Prod.mk.injEq, Option.some.injEq] at ran
                obtain ⟨rfl, rfl⟩ := ran
                rfl

/-- The three ways a comment request ends. -/
inductive CommentEffect (request : CommentRequest) (commentId auditId : Uuid) (now : Int)
    (state : WorkflowTables) : WorkflowTables → CommentOutcome → Prop where
  | replayed (existing : OperatorIdempotencyRecord) :
      idempotencyRecord? state.tables request.actor.operatorId request.idempotencyKey =
        some existing →
      CommentEffect request commentId auditId now state state (replayComment request existing)
  | notFound :
      idempotencyRecord? state.tables request.actor.operatorId request.idempotencyKey = none →
      CommentEffect request commentId auditId now state
        { state with tables := storeCommentOutcome request state.tables 404 commentMissing }
        ⟨404, commentMissing, false, some "not_found"⟩
  | added (entry : AuditLogEntry) :
      idempotencyRecord? state.tables request.actor.operatorId request.idempotencyKey = none →
      recordOperatorAction auditId now request.actor "incident.comment_added" "incident_comment"
        commentId request.requestId none
        [("incident_id", .str (Uuid.text request.incidentId))] = .ok entry →
      CommentEffect request commentId auditId now state
        (commentAdded request commentId now entry state)
        ⟨200, commentBody request commentId now, false, none⟩

/-- **What a comment request does.** -/
theorem addIncidentComment_performs {request : CommentRequest} {commentId auditId : Uuid}
    {now : Int}
    (performs : (addIncidentComment request commentId auditId now).Performs state after answer) :
    ∃ outcome, answer = .comment outcome ∧
      CommentEffect request commentId auditId now state after outcome := by
  unfold addIncidentComment at performs
  cases performs with
  | lock performs =>
      cases performs with
      | read performs =>
          dsimp only at performs
          split at performs
          next existing used =>
            cases performs with
            | commit => exact ⟨_, rfl, .replayed existing used⟩
          next unused =>
            cases performs with
            | peek seen performs =>
                dsimp only at performs
                split at performs
                · cases performs with
                  | commit => exact ⟨_, rfl, .notFound unused⟩
                · split at performs
                  · cases performs
                  split at performs
                  · cases performs
                  next entry recorded =>
                    cases performs with
                    | commit => exact ⟨_, rfl, .added entry unused recorded⟩

/-- Every such effect is one of the request. -/
theorem performs_addIncidentComment {request : CommentRequest} {commentId auditId : Uuid}
    {now : Int} {outcome : CommentOutcome}
    (effect : CommentEffect request commentId auditId now state after outcome) :
    (addIncidentComment request commentId auditId now).Performs state after (.comment outcome) := by
  unfold addIncidentComment
  refine .lock (.read ?_)
  cases effect with
  | replayed existing used =>
      rw [used]
      exact .commit
  | notFound unused =>
      rw [unused]
      exact .peek (.installed [] []) .commit
  | added entry unused recorded =>
      rw [unused]
      -- any state with the incident lets the comment in
      refine .peek ⟨{ Database.empty with
        incidents := [{ sampleIncident with id := request.incidentId }] }, [], []⟩ ?_
      simp only [Database.incident?, rowOf, List.find?_cons, decide_true, List.any_nil,
        Bool.false_eq_true, if_false]
      rw [recorded]
      exact .commit

end Performs

/-! ## The locks of a request -/

section Locks

/-- A record for one key does not answer for another lock. -/
theorem idempotencyRecord?_append {db : Database} {record : OperatorIdempotencyRecord}
    {operatorId : Uuid} {key : String}
    (other : record.operatorId ≠ operatorId ∨ record.idempotencyKey ≠ key) :
    idempotencyRecord? { db with idempotencyRecords := db.idempotencyRecords ++ [record] }
        operatorId key = idempotencyRecord? db operatorId key := by
  have unmatched : (record.operatorId = operatorId && record.idempotencyKey == key) = false := by
    rcases other with operator | key_differs
    · simp [operator]
    · simp [key_differs]
  simp [idempotencyRecord?, List.find?_append, unmatched]

/-- A record is stored under the lock of its operator and key. -/
theorem sameUnder_record {state other : WorkflowTables} (record : OperatorIdempotencyRecord)
    (stored : other.tables = { state.tables with
      idempotencyRecords := state.tables.idempotencyRecords ++ [record] })
    {held : List LockKey} (under : idempotencyLock record.operatorId record.idempotencyKey ∈ held)
    {key : LockKey} (outside : key ∉ held) : SameUnder key state other := by
  cases key with
  | advisory key =>
      intro operatorId idempotencyKey lock
      rw [stored]
      refine (idempotencyRecord?_append ?_).symm
      by_contra same
      push Not at same
      exact outside (by rw [← lock, ← same.1, ← same.2]; exact under)
  | agentEvent serverId agentEventId => simp [SameUnder, stored]
  | incident incidentId => exact ⟨by rw [stored]; rfl, by rw [stored]; rfl⟩
  | history historyId => simp [SameUnder, stored]

theorem transitionIncident_wellLocked (request : TransitionRequest) (historyId auditId : Uuid)
    (now : Int) :
    (transitionIncident request historyId auditId now).WellLocked SameUnder [] := by
  have refuses : ∀ (httpStatus : Nat) (body : JsonValue) (conflict : String) (held : List LockKey),
      idempotencyLock request.actor.operatorId request.idempotencyKey ∈ held →
        (refuseTransition request httpStatus body conflict).WellLocked SameUnder held :=
    fun httpStatus body _ _ under _ _ outside =>
      sameUnder_record (transitionRecord request httpStatus body) rfl under outside
  unfold transitionIncident
  refine ⟨fun state other agree => ?_, fun state => ?_⟩
  · have record := SameUnder.record (agree _ List.mem_cons_self)
    dsimp only
    rw [record]
  · dsimp only
    split
    · exact fun state key _ => (sameUnder_equivalence key).refl state
    · intro seen
      dsimp only
      split
      · exact refuses _ _ _ _ (by simp)
      · refine ⟨fun state other agree => ?_, fun state => ?_⟩
        · have row : SameUnder (.incident request.incidentId) state other :=
            agree _ List.mem_cons_self
          dsimp only
          rw [row.1]
        · dsimp only
          split
          · exact refuses _ _ _ _ (by simp)
          next incident found =>
            unfold decideTransition
            split
            · exact refuses _ _ _ _ (by simp)
            split
            · exact refuses _ _ _ _ (by simp)
            · refine ⟨fun state other same => same, ?_, trivial⟩
              split
              · trivial
              · intro state key outside
                have same_id := (rowOf_mem found).2
                have rows : WritesUnder
                    [.history historyId, .incident request.incidentId,
                      idempotencyLock request.actor.operatorId request.idempotencyKey]
                    (transitionWrites historyId now request incident) := by
                  refine ⟨by simp [transitionWrites], ?_, by simp [transitionWrites],
                    by simp [transitionWrites, transitionHistory]⟩
                  rintro _ ⟨rfl⟩
                  simp [transitioned, same_id]
                have written := sameUnder_write rows outside state
                refine (sameUnder_equivalence key).trans written ?_
                exact sameUnder_record (transitionRecord request 200 _) rfl
                  (by simp [transitionRecord]) outside

theorem addIncidentComment_wellLocked (request : CommentRequest) (commentId auditId : Uuid)
    (now : Int) :
    (addIncidentComment request commentId auditId now).WellLocked SameUnder [] := by
  unfold addIncidentComment
  refine ⟨fun state other agree => ?_, fun state => ?_⟩
  · have record := SameUnder.record (agree _ List.mem_cons_self)
    dsimp only
    rw [record]
  · dsimp only
    split
    · exact fun state key _ => (sameUnder_equivalence key).refl state
    · intro seen
      dsimp only
      split
      · exact fun state key outside =>
          sameUnder_record (commentRecord request 404 _) rfl List.mem_cons_self outside
      · split
        · trivial
        split
        · trivial
        · exact fun state key outside =>
            sameUnder_record (commentRecord request 200 _) rfl List.mem_cons_self outside

/-- **Every transaction's locks cover what it reads and writes.** -/
theorem Operation.wellLocked {unicode : UnicodeData} (operation : Operation unicode) :
    operation.code.WellLocked SameUnder [] := by
  cases operation with
  | transition submitted historyId auditId now =>
      exact transitionIncident_wellLocked submitted.request historyId auditId now
  | comment request commentId auditId now =>
      exact addIncidentComment_wellLocked request commentId auditId now
  | ingest draws maxAttempts serverId now batch =>
      exact Detection.Concurrent.ingestEvents_wellLocked draws maxAttempts serverId now batch
  | configure ruleVersions destinations =>
      intro state key _
      cases key with
      | advisory key => exact fun _ _ _ => rfl
      | agentEvent serverId agentEventId => rfl
      | incident incidentId => exact ⟨rfl, rfl⟩
      | history historyId => rfl

section Serial

variable {unicode : UnicodeData}
variable {start finish : Installation unicode} {path : List (Moved unicode)}

theorem covered_of_idle (idle : start.active = []) :
    Transactions.Covered SameUnder Operation.code start := by
  obtain ⟨committed, active⟩ := start
  obtain rfl : active = [] := idle
  exact .idle committed

/-- **Interleaved operations commit one after another.** -/
theorem serial_commits (run : Run (Transactions.Step Operation.code) start path finish)
    (idle : start.active = []) :
    Run (Transactions.Serves Operation.code) start.committed (Transactions.commits path)
      finish.committed :=
  Transactions.serial run sameUnder_equivalence Operation.wellLocked (covered_of_idle idle)

theorem serial_commits_around (run : Run (Transactions.Step Operation.code) start path finish)
    (idle : start.active = []) {moved : Moved unicode} (member : moved ∈ path) :
    (∃ earlier : List (Served unicode),
      Run (Transactions.Serves Operation.code) start.committed earlier moved.after.committed) ∧
    ∃ later : List (Served unicode),
      Run (Transactions.Serves Operation.code) moved.after.committed later finish.committed :=
  Transactions.serial_around run sameUnder_equivalence Operation.wellLocked (covered_of_idle idle)
    member

end Serial

end Locks

end Concurrent

end WolandGuard.Incidents
