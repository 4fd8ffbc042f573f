import WolandGuard.Data.Readable
import WolandGuard.Incidents.Chain

/-!
# Idempotency keys of operators

Transitions and comments share the keys of an operator. The first request that
commits under a key fixes the outcome; the same request is answered with it
from then on, and any other request is refused.
-/

set_option autoImplicit false

namespace WolandGuard.Incidents

open Foundations Concurrent JsonValue

/-! ## Canonical requests -/

/-- What a request asks for, without the key it is sent under. -/
inductive CanonicalRequest where
  | transition (incidentId : Uuid) (transition : NormalizedTransition)
  | comment (incidentId : Uuid) (comment : NormalizedComment)
  deriving DecidableEq

/-- The canonical request of a transition. -/
def canonicalTransition (incidentId : Uuid) (transition : NormalizedTransition) : String :=
  canonicalValue (.obj [
    ("expected_version", .int transition.expectedVersion),
    ("incident_id", .str (Uuid.text incidentId)),
    ("operation", .str idempotencyOperation),
    ("reason", ofOption transition.reason),
    ("status", .str transition.targetStatus.value)])

theorem canonicalTransitionHash_eq (incidentId : Uuid) (transition : NormalizedTransition) :
    canonicalTransitionHash incidentId transition =
      sha256Hex (canonicalTransition incidentId transition) := by
  unfold canonicalTransitionHash canonicalTransition
  rfl

namespace CanonicalRequest

/-- The text that is hashed. -/
def text : CanonicalRequest → String
  | .transition incidentId asked => canonicalTransition incidentId asked
  | .comment incidentId written => canonicalComment incidentId written

/-- The operation that is stored. -/
def operation : CanonicalRequest → String
  | .transition _ _ => idempotencyOperation
  | .comment _ _ => commentIdempotencyOperation

/-- `canonical_transition_hash` or `canonical_comment_hash`. -/
def hash (request : CanonicalRequest) : String := sha256Hex request.text

theorem transition_toList (incidentId : Uuid) (asked : NormalizedTransition) :
    (canonicalTransition incidentId asked).toList =
      "\x7b\"expected_version\":".toList ++
        ((toString (asked.expectedVersion : Int)).toList ++ ',' ::
          ("\"incident_id\":".toList ++
            ((quote (Uuid.text incidentId)).toList ++
              (",\"operation\":\"incident.status.transition.v1\",\"reason\":".toList ++
                ((canonicalValue (ofOption asked.reason)).toList ++
                  (",\"status\":".toList ++
                    ((quote asked.targetStatus.value).toList ++ ['\x7d']))))))) := by
  unfold canonicalTransition
  rw [canonicalValue_obj (by simp [canonicalMembers, keyOrder])]
  simp only [canonicalMembers, List.map_cons, List.map_nil, String.intercalate_cons_cons,
    String.intercalate_singleton, canonicalValue, String.toList_append, quote_toList]
  simp [escapeChar, idempotencyOperation]

theorem comment_toList (incidentId : Uuid) (written : NormalizedComment) :
    (canonicalComment incidentId written).toList =
      "\x7b\"comment\":".toList ++
        ((quote written.body).toList ++
          (",\"incident_id\":".toList ++
            ((quote (Uuid.text incidentId)).toList ++
              ",\"operation\":\"incident.comment.create.v1\"\x7d".toList))) := by
  unfold canonicalComment
  rw [canonicalValue_obj (by simp [canonicalMembers, keyOrder])]
  simp only [canonicalMembers, List.map_cons, List.map_nil, String.intercalate_cons_cons,
    String.intercalate_singleton, canonicalValue, String.toList_append, quote_toList]
  simp [escapeChar, commentIdempotencyOperation]

theorem value_inj {left right : IncidentStatus} (same : left.value = right.value) :
    left = right := by
  cases left <;> cases right <;> first | rfl | exact absurd same (by decide)

/-- **The canonical text determines the request.** -/
theorem text_inj {left right : CanonicalRequest} (same : left.text = right.text) :
    left = right := by
  have lists := congrArg String.toList same
  cases left with
  | transition incidentId asked =>
      cases right with
      | transition otherId other =>
          simp only [text, transition_toList] at lists
          obtain ⟨versions, lists⟩ := number_append_inj (List.append_cancel_left lists)
          obtain ⟨ids, lists⟩ := quote_append_inj (List.append_cancel_left lists)
          obtain ⟨reasons, lists⟩ := ofOption_append_inj (List.append_cancel_left lists)
          obtain ⟨statuses, _⟩ := quote_append_inj (List.append_cancel_left lists)
          obtain rfl := Uuid.text_inj ids
          obtain ⟨status, version, reason⟩ := asked
          obtain ⟨otherStatus, otherVersion, otherReason⟩ := other
          obtain rfl : status = otherStatus := value_inj statuses
          obtain rfl : version = otherVersion := versions
          obtain rfl : reason = otherReason := reasons
          rfl
      | comment otherId other =>
          simp [text, transition_toList, comment_toList] at lists
  | comment incidentId written =>
      cases right with
      | transition otherId other =>
          simp [text, transition_toList, comment_toList] at lists
      | comment otherId other =>
          simp only [text, comment_toList] at lists
          obtain ⟨bodies, lists⟩ := quote_append_inj (List.append_cancel_left lists)
          obtain ⟨ids, _⟩ := quote_append_inj (List.append_cancel_left lists)
          obtain rfl := Uuid.text_inj ids
          obtain ⟨body⟩ := written
          obtain ⟨otherBody⟩ := other
          obtain rfl : body = otherBody := bodies
          rfl

end CanonicalRequest

/-! ## Scopes and outcomes -/

namespace Concurrent

variable {unicode : UnicodeData}

/-- The operator and the key of a request. -/
def Operation.scope? : Operation unicode → Option (Uuid × String)
  | .transition submitted _ _ _ =>
      some (submitted.request.actor.operatorId, submitted.request.idempotencyKey)
  | .comment request _ _ _ => some (request.actor.operatorId, request.idempotencyKey)
  | .ingest _ _ _ _ _ => none
  | .configure _ _ => none

/-- The canonical request of a request. -/
def Operation.canonical? : Operation unicode → Option CanonicalRequest
  | .transition submitted _ _ _ =>
      some (.transition submitted.request.incidentId submitted.request.transition)
  | .comment request _ _ _ => some (.comment request.incidentId request.comment)
  | .ingest _ _ _ _ _ => none
  | .configure _ _ => none

end Concurrent

/-- `TransitionOutcome` or `CommentOutcome`. -/
structure OperatorOutcome where
  httpStatus : Nat
  responseBody : JsonValue
  replayed : Bool
  conflictType : Option String

def Answer.outcome? : Answer → Option OperatorOutcome
  | .transition outcome =>
      some ⟨outcome.httpStatus, outcome.responseBody, outcome.replayed, outcome.conflictType⟩
  | .comment outcome =>
      some ⟨outcome.httpStatus, outcome.responseBody, outcome.replayed, outcome.conflictType⟩
  | .ingested _ => none
  | .configured => none

/-- The answer to another request under a used key. -/
def keyReused : OperatorOutcome where
  httpStatus := 409
  responseBody := .obj [("detail", .str "Idempotency-Key was already used for another request")]
  replayed := false
  conflictType := some "idempotency_key_reused"

/-- The record of an operator and a key. -/
def recordAt (state : WorkflowTables) (scope : Uuid × String) : Option OperatorIdempotencyRecord :=
  idempotencyRecord? state.tables scope.1 scope.2

/-- The tables with other stored outcomes. -/
def WorkflowTables.withRecords (state : WorkflowTables)
    (records : List OperatorIdempotencyRecord) : WorkflowTables :=
  { state with tables := { state.tables with idempotencyRecords := records } }

/-- No two of the requests have one SHA-256 value and different texts. -/
def CollisionFree (requests : List CanonicalRequest) : Prop :=
  ∀ one ∈ requests, ∀ other ∈ requests, one.hash = other.hash → one.text = other.text

instance (requests : List CanonicalRequest) : Decidable (CollisionFree requests) :=
  inferInstanceAs (Decidable (∀ one ∈ requests, ∀ other ∈ requests, _))

/-- A record that was stored for a request with an outcome. -/
structure Remembers (record : OperatorIdempotencyRecord) (scope : Uuid × String)
    (canonical : CanonicalRequest) (outcome : OperatorOutcome) : Prop where
  scope : (record.operatorId, record.idempotencyKey) = scope
  hash : record.canonicalRequestHash = canonical.hash
  operation : record.operation = canonical.operation
  outcome : outcome =
    ⟨record.responseStatus, record.responseBody, false, storedConflictType record.responseBody⟩

/-! ## One request -/

section Requests

variable {unicode : UnicodeData} {state after : WorkflowTables} {operation : Operation unicode}
variable {answer : Answer} {scope : Uuid × String} {canonical : CanonicalRequest}

/-- **The first request under a key stores its outcome, whatever other keys
have stored.** -/
theorem serves_first (serves : Transactions.Serves Operation.code state (operation, answer) after)
    (within : operation.scope? = some scope) (asked : operation.canonical? = some canonical)
    (unused : recordAt state scope = none) :
    ∃ record outcome, answer.outcome? = some outcome ∧ Remembers record scope canonical outcome ∧
      after.tables.idempotencyRecords = state.tables.idempotencyRecords ++ [record] ∧
      ∀ others, recordAt (state.withRecords others) scope = none →
        Transactions.Serves Operation.code (state.withRecords others) (operation, answer)
          (after.withRecords (others ++ [record])) := by
  cases operation with
  | transition submitted historyId auditId now =>
      obtain rfl := Option.some.inj within
      obtain rfl := Option.some.inj asked
      have hashed := submitted.submitted.canonicalRequestHash
      rw [canonicalTransitionHash_eq] at hashed
      obtain ⟨outcome, rfl, effect⟩ := transitionIncident_performs serves
      cases effect with
      | replayed existing used =>
          rw [recordAt, used] at unused
          cases unused
      | refused httpStatus body conflictType _ refusal =>
          refine ⟨transitionRecord submitted.request httpStatus body, _, rfl,
            ⟨rfl, hashed, rfl, by rw [← refusal.storedConflictType]; rfl⟩, rfl, ?_⟩
          intro others absent
          refine performs_transitionIncident (.refused httpStatus body conflictType absent ?_)
          cases refusal with
          | notFound => exact .notFound
          | stale incident found stale => exact .stale incident found stale
          | notAllowed incident found current refused => exact .notAllowed incident found current refused
      | applied incident entry applies fresh recorded =>
          refine ⟨transitionRecord submitted.request 200 _, _, rfl, ⟨rfl, hashed, rfl, rfl⟩, rfl, ?_⟩
          intro others absent
          exact performs_transitionIncident (.applied incident entry
            ⟨absent, applies.found, applies.current, applies.allowed⟩ fresh recorded)
  | comment request commentId auditId now =>
      obtain rfl := Option.some.inj within
      obtain rfl := Option.some.inj asked
      obtain ⟨outcome, rfl, effect⟩ := addIncidentComment_performs serves
      cases effect with
      | replayed existing used =>
          rw [recordAt, used] at unused
          cases unused
      | notFound _ =>
          refine ⟨commentRecord request 404 commentMissing, _, rfl, ⟨rfl, rfl, rfl, rfl⟩, rfl, ?_⟩
          intro others absent
          exact performs_addIncidentComment (.notFound absent)
      | added entry _ recorded =>
          refine ⟨commentRecord request 200 _, _, rfl, ⟨rfl, rfl, rfl, rfl⟩, rfl, ?_⟩
          intro others absent
          exact performs_addIncidentComment (.added entry absent recorded)
  | ingest draws maxAttempts serverId now batch => cases within
  | configure ruleVersions destinations => cases within

/-- **A request under a used key gets the stored outcome if it is the same, and
is refused otherwise.** The tables stay as they are. -/
theorem serves_later {first : CanonicalRequest} {outcome : OperatorOutcome}
    {record : OperatorIdempotencyRecord}
    (serves : Transactions.Serves Operation.code state (operation, answer) after)
    (within : operation.scope? = some scope) (asked : operation.canonical? = some canonical)
    (used : recordAt state scope = some record) (remembers : Remembers record scope first outcome)
    (collisionFree : canonical.hash = first.hash → canonical.text = first.text) :
    after = state ∧ answer.outcome? = some
      (if canonical = first then { outcome with replayed := true } else keyReused) := by
  have same_hash : canonical.hash = first.hash ↔ canonical = first :=
    ⟨fun same => CanonicalRequest.text_inj (collisionFree same), fun same => same ▸ rfl⟩
  cases operation with
  | transition submitted historyId auditId now =>
      obtain rfl := Option.some.inj within
      obtain rfl := Option.some.inj asked
      have hashed := submitted.submitted.canonicalRequestHash
      rw [canonicalTransitionHash_eq] at hashed
      obtain ⟨outcome, rfl, effect⟩ := transitionIncident_performs serves
      cases effect with
      | replayed existing found =>
          obtain rfl := Option.some.inj (used.symm.trans found)
          refine ⟨rfl, ?_⟩
          have compared : (record.canonicalRequestHash == submitted.request.canonicalRequestHash) =
              decide (CanonicalRequest.transition submitted.request.incidentId
                submitted.request.transition = first) := by
            rw [remembers.hash, hashed, Bool.eq_iff_iff, beq_iff_eq, decide_eq_true_eq, ← same_hash]
            exact eq_comm
          rw [remembers.outcome]
          simp only [replayTransition, compared, decide_eq_true_eq, Answer.outcome?, keyReused]
          split <;> rfl
      | refused httpStatus body conflictType unused _ =>
          rw [recordAt, unused] at used
          cases used
      | applied incident entry applies _ _ =>
          rw [recordAt, applies.unused] at used
          cases used
  | comment request commentId auditId now =>
      obtain rfl := Option.some.inj within
      obtain rfl := Option.some.inj asked
      obtain ⟨outcome, rfl, effect⟩ := addIncidentComment_performs serves
      cases effect with
      | replayed existing found =>
          obtain rfl := Option.some.inj (used.symm.trans found)
          refine ⟨rfl, ?_⟩
          have compared : (record.operation == commentIdempotencyOperation &&
                record.canonicalRequestHash ==
                  canonicalCommentHash request.incidentId request.comment) =
              decide (CanonicalRequest.comment request.incidentId request.comment = first) := by
            rw [Bool.eq_iff_iff, Bool.and_eq_true, beq_iff_eq, beq_iff_eq, decide_eq_true_eq,
              ← same_hash, remembers.hash, remembers.operation]
            refine ⟨fun both => both.2.symm, fun same => ⟨?_, same.symm⟩⟩
            rw [← same_hash.mp same]
            rfl
          rw [remembers.outcome]
          simp only [replayComment, compared, decide_eq_true_eq, Answer.outcome?, keyReused]
          split <;> rfl
      | notFound unused =>
          rw [recordAt, unused] at used
          cases used
      | added entry unused _ =>
          rw [recordAt, unused] at used
          cases used
  | ingest draws maxAttempts serverId now batch => cases within
  | configure ruleVersions destinations => cases within

/-- The writes of an ingestion leave the stored outcomes. -/
theorem seenBy_records (own : List Writes) (db : Database) :
    (seenBy own db).idempotencyRecords = db.idempotencyRecords := by
  induction own generalizing db with
  | nil => rfl
  | cons writes rest ih => exact ih (db.write writes)

/-- **A commit adds at most the record of its own operator and key.** -/
theorem records_of_serves
    (serves : Transactions.Serves Operation.code state (operation, answer) after) :
    after.tables.idempotencyRecords = state.tables.idempotencyRecords ∨
      ∃ record, operation.scope? = some (record.operatorId, record.idempotencyKey) ∧
        after.tables.idempotencyRecords = state.tables.idempotencyRecords ++ [record] := by
  cases operation with
  | transition submitted historyId auditId now =>
      obtain ⟨outcome, rfl, effect⟩ := transitionIncident_performs serves
      cases effect with
      | replayed existing used => exact .inl rfl
      | refused httpStatus body conflictType unused _ =>
          exact .inr ⟨transitionRecord submitted.request httpStatus body, rfl, rfl⟩
      | applied incident entry _ _ _ =>
          exact .inr ⟨transitionRecord submitted.request 200 _, rfl, rfl⟩
  | comment request commentId auditId now =>
      obtain ⟨outcome, rfl, effect⟩ := addIncidentComment_performs serves
      cases effect with
      | replayed existing used => exact .inl rfl
      | notFound _ => exact .inr ⟨commentRecord request 404 commentMissing, rfl, rfl⟩
      | added entry _ _ => exact .inr ⟨commentRecord request 200 _, rfl, rfl⟩
  | ingest draws maxAttempts serverId now batch =>
      obtain ⟨_, _, rfl | ⟨own, _, rfl⟩⟩ := Detection.Concurrent.ingestEvents_performs serves
      · exact .inl rfl
      · exact .inl (seenBy_records own state.tables)
  | configure ruleVersions destinations =>
      cases serves with
      | commit => exact .inl rfl

theorem recordAt_append {record : OperatorIdempotencyRecord}
    (appended : after.tables.idempotencyRecords = state.tables.idempotencyRecords ++ [record]) :
    recordAt after scope = (recordAt state scope).or
      (if (record.operatorId, record.idempotencyKey) = scope then some record else none) := by
  obtain ⟨operatorId, idempotencyKey⟩ := scope
  simp only [recordAt, idempotencyRecord?, appended, List.find?_append, List.find?_cons,
    List.find?_nil, Prod.mk.injEq]
  congr 1
  split <;> simp_all

theorem recordAt_of_records
    (same : after.tables.idempotencyRecords = state.tables.idempotencyRecords) :
    recordAt after scope = recordAt state scope := by
  simp only [recordAt, idempotencyRecord?, same]

/-- A stored outcome stays. -/
theorem recordAt_kept {record : OperatorIdempotencyRecord}
    (serves : Transactions.Serves Operation.code state (operation, answer) after)
    (used : recordAt state scope = some record) : recordAt after scope = some record := by
  rcases records_of_serves serves with same | ⟨added, _, appended⟩
  · rw [recordAt_of_records same, used]
  · rw [recordAt_append appended, used, Option.some_or]

/-- A request under another key or by another operator leaves the record. -/
theorem recordAt_other
    (serves : Transactions.Serves Operation.code state (operation, answer) after)
    (outside : operation.scope? ≠ some scope) : recordAt after scope = recordAt state scope := by
  rcases records_of_serves serves with same | ⟨added, owner, appended⟩
  · exact recordAt_of_records same
  · have other : (added.operatorId, added.idempotencyKey) ≠ scope := fun here =>
      outside (owner.trans (congrArg some here))
    rw [recordAt_append appended, if_neg other, Option.or_none]

end Requests

/-! ## Whole runs -/

section Runs

variable {unicode : UnicodeData} {start finish : WorkflowTables} {path : List (Served unicode)}
variable {scope : Uuid × String}

theorem recordAt_of_run {record : OperatorIdempotencyRecord}
    (run : Run (Transactions.Serves Operation.code) start path finish)
    (used : recordAt start scope = some record) : recordAt finish scope = some record :=
  run.invariant (fun _ _ _ holds serves => recordAt_kept serves holds) used

theorem recordAt_of_run_other (run : Run (Transactions.Serves Operation.code) start path finish)
    (outside : ∀ served ∈ path, served.label.1.scope? ≠ some scope) :
    recordAt finish scope = recordAt start scope := by
  induction run with
  | nil state => rfl
  | cons serves _ ih =>
      rw [ih fun served member => outside served (List.mem_cons_of_mem _ member)]
      exact recordAt_other serves (outside _ List.mem_cons_self)

/-- A request of an operator has a canonical request. -/
theorem Concurrent.Operation.canonical?_of_scope {operation : Operation unicode}
    (within : operation.scope? = some scope) : ∃ canonical, operation.canonical? = some canonical := by
  cases operation with
  | transition submitted historyId auditId now => exact ⟨_, rfl⟩
  | comment request commentId auditId now => exact ⟨_, rfl⟩
  | ingest draws maxAttempts serverId now batch => cases within
  | configure ruleVersions destinations => cases within

/-- The canonical requests of the operators on a path. -/
def requestsOf (path : List (Served unicode)) : List CanonicalRequest :=
  path.filterMap fun served => served.label.1.canonical?

theorem mem_requestsOf {served : Served unicode} (member : served ∈ path)
    {canonical : CanonicalRequest} (asked : served.label.1.canonical? = some canonical) :
    canonical ∈ requestsOf path :=
  List.mem_filterMap.mpr ⟨served, member, asked⟩

end Runs

/-- **An operator's key names one request.** In every run, the first request
that commits under an operator and a key stores its outcome, and it would do
the same whatever other keys have stored. Any later one under them changes
nothing: the same request gets the stored outcome, and another one is refused.
Requests under other keys leave the stored outcome. -/
theorem operator_idempotency {unicode : UnicodeData} {ruleVersions : List DetectionRuleVersion}
    {destinations : List Outbox.NotificationDestination}
    {path : List (Moved unicode)} {finish : Installation unicode}
    (run : Run (Transactions.Step Operation.code)
      (.idle (.installed ruleVersions destinations)) path finish)
    (collisionFree : CollisionFree (requestsOf (Transactions.commits path)))
    {scope : Uuid × String} {earlier later : List (Served unicode)} {first : Served unicode}
    (committed : Transactions.commits path = earlier ++ first :: later)
    (within : first.label.1.scope? = some scope)
    (earliest : ∀ served ∈ earlier, served.label.1.scope? ≠ some scope) :
    ∃ canonical outcome record, first.label.1.canonical? = some canonical ∧
      first.label.2.outcome? = some outcome ∧ Remembers record scope canonical outcome ∧
      recordAt first.after scope = some record ∧
      recordAt finish.committed scope = some record ∧
      (∀ others, recordAt (first.before.withRecords others) scope = none →
        Transactions.Serves Operation.code (first.before.withRecords others) first.label
          (first.after.withRecords (others ++ [record]))) ∧
      ∀ second ∈ later,
        (second.label.1.scope? = some scope →
          second.after = second.before ∧
            ∀ asked, second.label.1.canonical? = some asked →
              second.label.2.outcome? = some
                (if asked = canonical then { outcome with replayed := true } else keyReused)) ∧
        recordAt second.after scope = some record := by
  have serial := serial_commits run rfl
  rw [committed] at serial collisionFree
  obtain ⟨before_first, serves, after_first⟩ := serial.around
  have unused : recordAt first.before scope = none :=
    recordAt_of_run_other before_first earliest
  obtain ⟨canonical, asked⟩ := Operation.canonical?_of_scope within
  obtain ⟨record, outcome, answered, remembers, appended, alike⟩ :=
    serves_first serves within asked unused
  have stored : recordAt first.after scope = some record := by
    rw [recordAt_append appended, unused, if_pos remembers.scope, Option.none_or]
  refine ⟨canonical, outcome, record, asked, answered, remembers, stored,
    recordAt_of_run after_first stored, alike, fun second member => ?_⟩
  have kept := after_first.invariant_at (fun _ _ _ holds serves => recordAt_kept serves holds)
    stored member
  refine ⟨fun second_within => ?_, kept.2⟩
  have second_serves := after_first.taken_step member
  have free : ∀ other, second.label.1.canonical? = some other → other.hash = canonical.hash →
      other.text = canonical.text := fun other second_asked =>
    collisionFree other (mem_requestsOf (by simp [member]) second_asked) canonical
      (mem_requestsOf (by simp) asked)
  obtain ⟨other, second_asked⟩ := Operation.canonical?_of_scope second_within
  have replied := serves_later second_serves second_within second_asked kept.1 remembers
    (free other second_asked)
  refine ⟨replied.1, fun named same => ?_⟩
  obtain rfl := Option.some.inj (second_asked.symm.trans same)
  exact replied.2

/-- The brute force is investigated, and the key of that request is used again:
for the same request after the incident is resolved, and for a comment. -/
def keyUsedAgain : List (Operation .ascii) :=
  [.ingest Detection.sampleDraws 5 1 0 Detection.sevenFailures,
    .ingest Detection.sampleDraws 5 1 0 [Detection.failureAt 8],
    .transition investigateBruteforce 21 31 1,
    .transition (resolveBruteforce "third" isIdempotencyKey_third) 22 33 3,
    .transition investigateBruteforce 23 34 4,
    .comment ⟨sampleOperator, 8, ⟨"seen"⟩, "first", "request"⟩ 41 32 5]

/-- Its commits. -/
def keyUsedCommits : List (Served .ascii) :=
  Transactions.commitsAlone Operation.code (.installed [Detection.bruteforceVersion] [])
    keyUsedAgain

/-- The third commit stores its outcome, and no later one changes anything
under its key. -/
theorem operator_idempotency_key_used_again :
    ∃ first record, keyUsedCommits[2]? = some first ∧
      recordAt first.after (1, "first") = some record ∧
      ∀ second ∈ keyUsedCommits.drop 3, second.label.1.scope? = some (1, "first") →
        second.after = second.before := by
  have third : keyUsedCommits[2]?.bind (fun served => served.label.1.scope?) =
      some (1, "first") := by
    decide +kernel
  have earliest : ∀ served ∈ keyUsedCommits.take 2,
      served.label.1.scope? ≠ some (1, "first") := by
    decide +kernel
  have collisionFree : CollisionFree (requestsOf keyUsedCommits) := by decide +kernel
  obtain ⟨first, at_two, within⟩ := Option.bind_eq_some_iff.mp third
  obtain ⟨bound, rfl⟩ := List.getElem?_eq_some_iff.mp at_two
  have cut : keyUsedCommits = keyUsedCommits.take 2 ++ keyUsedCommits[2] :: keyUsedCommits.drop 3 := by
    rw [← List.drop_eq_getElem_cons bound, List.take_append_drop]
  obtain ⟨path, run, committed⟩ := Transactions.run_serveAlone
    (WorkflowTables.installed [Detection.bruteforceVersion] [])
    keyUsedAgain
  change Transactions.commits path = keyUsedCommits at committed
  obtain ⟨_, _, record, _, _, _, stored, _, _, later⟩ :=
    operator_idempotency run (by rw [committed]; exact collisionFree) (committed.trans cut) within
      earliest
  exact ⟨_, record, at_two, stored, fun second member second_within =>
    ((later second member).1 second_within).1⟩

end WolandGuard.Incidents
