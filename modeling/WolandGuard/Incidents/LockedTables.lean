import WolandGuard.Foundations.Transactions
import WolandGuard.Incidents.Audit
import WolandGuard.Incidents.Comments

/-!
# The tables and their locks

The tables that ingestion, transitions and comments write at the same time, and
the locks that these transactions take: advisory locks, the rows of incidents,
and the unique keys of inserted rows. `SameUnder key` says what a lock covers.
-/

set_option autoImplicit false

namespace WolandGuard.Incidents

open Foundations Outbox

/-- The database with the comments and the audit log. -/
structure WorkflowTables where
  tables : Database
  comments : List IncidentComment
  auditLog : List AuditLogEntry

/-- An installation with rules and destinations that has seen nothing yet. -/
def WorkflowTables.installed (ruleVersions : List DetectionRuleVersion)
    (destinations : List NotificationDestination) : WorkflowTables where
  tables := { Database.empty with ruleVersions := ruleVersions, destinations := destinations }
  comments := []
  auditLog := []

/-- `uq_events_server_id_agent_event_id` has a row. -/
def hasEvent (events : List Event) (serverId agentEventId : Uuid) : Bool :=
  events.any fun event => event.serverId = serverId && event.agentEventId = agentEventId

/-- The primary key of `incident_history` has a row. -/
def hasHistory (history : List IncidentHistoryEntry) (historyId : Uuid) : Bool :=
  history.any (·.id = historyId)

/-- The history of an incident. -/
def historyOf (db : Database) (incidentId : Uuid) : List IncidentHistoryEntry :=
  db.history.filter (·.incidentId = incidentId)

/-! ## Locks -/

inductive LockKey where
  | advisory (key : Int)
  | agentEvent (serverId agentEventId : Uuid)
  | incident (incidentId : Uuid)
  | history (historyId : Uuid)
  deriving DecidableEq, Repr

/-- `acquire_operator_idempotency_lock`. -/
@[irreducible]
def idempotencyLock (operatorId : Uuid) (idempotencyKey : String) : LockKey :=
  .advisory (lockKey (Uuid.text operatorId ++ ":" ++ idempotencyKey))

/-- `_acquire_correlation_lock`. -/
@[irreducible]
def correlationLock (bucket : Bucket) : LockKey :=
  .advisory (lockKey
    (Uuid.text bucket.serverId ++ ":" ++ Uuid.text bucket.ruleVersionId ++ ":" ++
      bucket.correlationHash))

/-- Two states have the same data under a lock. -/
def SameUnder : LockKey → WorkflowTables → WorkflowTables → Prop
  | .advisory key, state, other => ∀ operatorId idempotencyKey,
      idempotencyLock operatorId idempotencyKey = .advisory key →
        idempotencyRecord? state.tables operatorId idempotencyKey =
          idempotencyRecord? other.tables operatorId idempotencyKey
  | .agentEvent serverId agentEventId, state, other =>
      hasEvent state.tables.events serverId agentEventId =
        hasEvent other.tables.events serverId agentEventId
  | .incident incidentId, state, other =>
      state.tables.incident? incidentId = other.tables.incident? incidentId ∧
        state.tables.linksOf incidentId = other.tables.linksOf incidentId
  | .history historyId, state, other =>
      hasHistory state.tables.history historyId = hasHistory other.tables.history historyId

theorem sameUnder_equivalence (key : LockKey) : Equivalence (SameUnder key) := by
  cases key with
  | advisory key =>
      exact ⟨fun _ _ _ _ => rfl, fun same o k lock => (same o k lock).symm,
        fun first second o k lock => (first o k lock).trans (second o k lock)⟩
  | agentEvent serverId agentEventId => exact ⟨fun _ => rfl, Eq.symm, Eq.trans⟩
  | incident incidentId =>
      exact ⟨fun _ => ⟨rfl, rfl⟩, fun same => ⟨same.1.symm, same.2.symm⟩,
        fun first second => ⟨first.1.trans second.1, first.2.trans second.2⟩⟩
  | history historyId => exact ⟨fun _ => rfl, Eq.symm, Eq.trans⟩

/-- The lock of an operator and a key covers their record. -/
theorem SameUnder.record {operatorId : Uuid} {idempotencyKey : String}
    {state other : WorkflowTables}
    (same : SameUnder (idempotencyLock operatorId idempotencyKey) state other) :
    idempotencyRecord? state.tables operatorId idempotencyKey =
      idempotencyRecord? other.tables operatorId idempotencyKey := by
  unfold idempotencyLock SameUnder at same
  exact same operatorId idempotencyKey (by unfold idempotencyLock; rfl)

/-! ## Transactions -/

/-- What a transaction answers. -/
inductive Answer where
  | transition (outcome : TransitionOutcome)
  | comment (outcome : CommentOutcome)
  | ingested (accepted : Nat)
  | configured

/-- A transaction over the tables. -/
abbrev WorkflowProgram := Program WorkflowTables LockKey Answer

/-! ## A transaction's own writes -/

/-- The tables as a transaction sees them that has written `own`. -/
def seenBy (own : List Writes) (db : Database) : Database := own.foldl Database.write db

@[simp]
theorem seenBy_nil (db : Database) : seenBy [] db = db := rfl

@[simp]
theorem seenBy_append (own more : List Writes) (db : Database) :
    seenBy (own ++ more) db = seenBy more (seenBy own db) := List.foldl_append

@[simp]
theorem seenBy_singleton (writes : Writes) (db : Database) :
    seenBy [writes] db = db.write writes := rfl

/-- The locks that rows are written under. -/
structure WritesUnder (held : List LockKey) (writes : Writes) : Prop where
  events : ∀ event ∈ writes.events, LockKey.agentEvent event.serverId event.agentEventId ∈ held
  incident : ∀ incident, writes.incident = some incident → LockKey.incident incident.id ∈ held
  links : ∀ link ∈ writes.links, LockKey.incident link.incidentId ∈ held
  history : ∀ entry ∈ writes.history, LockKey.history entry.id ∈ held

theorem WritesUnder.mono {held more : List LockKey} {writes : Writes}
    (under : WritesUnder held writes) (subset : held ⊆ more) : WritesUnder more writes where
  events event member := subset (under.events event member)
  incident incident same := subset (under.incident incident same)
  links link member := subset (under.links link member)
  history entry member := subset (under.history entry member)

section Write

variable {db : Database} {writes : Writes}

theorem incident?_write (incidentId : Uuid) :
    (db.write writes).incident? incidentId =
      match writes.incident with
      | some row => if row.id = incidentId then some row else db.incident? incidentId
      | none => db.incident? incidentId := by
  unfold Database.incident? Database.write
  cases writes.incident with
  | none => rfl
  | some row => exact rowOf_putRow incidentId

theorem linksOf_write (incidentId : Uuid) :
    (db.write writes).linksOf incidentId =
      db.linksOf incidentId ++ writes.links.filter (·.incidentId = incidentId) := by
  simp [Database.linksOf]

theorem hasEvent_append (events more : List Event) (serverId agentEventId : Uuid) :
    hasEvent (events ++ more) serverId agentEventId =
      (hasEvent events serverId agentEventId || hasEvent more serverId agentEventId) :=
  List.any_append

@[simp]
theorem write_history : (db.write writes).history = db.history ++ writes.history := rfl

theorem hasHistory_append (history more : List IncidentHistoryEntry) (historyId : Uuid) :
    hasHistory (history ++ more) historyId =
      (hasHistory history historyId || hasHistory more historyId) :=
  List.any_append

@[simp]
theorem idempotencyRecord?_write (operatorId : Uuid) (key : String) :
    idempotencyRecord? (db.write writes) operatorId key = idempotencyRecord? db operatorId key := rfl

/-- **Rows written under locks leave alone what other locks cover.** -/
theorem sameUnder_write {held : List LockKey} (under : WritesUnder held writes) {key : LockKey}
    (outside : key ∉ held) (state : WorkflowTables) :
    SameUnder key state { state with tables := state.tables.write writes } := by
  cases key with
  | advisory key => exact fun _ _ _ => rfl
  | agentEvent serverId agentEventId =>
      have fresh : hasEvent writes.events serverId agentEventId = false := by
        simp only [hasEvent, List.any_eq_false, Bool.and_eq_true, decide_eq_true_eq, not_and]
        rintro event member rfl rfl
        exact outside (under.events event member)
      simp [SameUnder, hasEvent_append, fresh]
  | incident incidentId =>
      refine ⟨?_, ?_⟩
      · rw [incident?_write]
        cases row : writes.incident with
        | none => rfl
        | some incident =>
            have other : incident.id ≠ incidentId := fun same =>
              outside (same ▸ under.incident incident row)
            simp [other]
      · have none_here : writes.links.filter (·.incidentId = incidentId) = [] := by
          simp only [List.filter_eq_nil_iff, decide_eq_true_eq]
          rintro link member rfl
          exact outside (under.links link member)
        simp [linksOf_write, none_here]
  | history historyId =>
      have fresh : hasHistory writes.history historyId = false := by
        simp only [hasHistory, List.any_eq_false, decide_eq_true_eq]
        rintro entry member rfl
        exact outside (under.history entry member)
      simp [SameUnder, hasHistory_append, fresh]

end Write

section Seen

variable {held : List LockKey} {own : List Writes}

/-- A transaction's own writes are under its locks. -/
theorem sameUnder_seenBy (under : ∀ writes ∈ own, WritesUnder held writes) {key : LockKey}
    (outside : key ∉ held) (state : WorkflowTables) :
    SameUnder key state { state with tables := seenBy own state.tables } := by
  induction own generalizing state with
  | nil => exact (sameUnder_equivalence key).refl state
  | cons writes rest ih =>
      have first := sameUnder_write (under writes List.mem_cons_self) outside state
      have later := ih (fun other member => under other (List.mem_cons_of_mem _ member))
        { state with tables := state.tables.write writes }
      exact (sameUnder_equivalence key).trans first later

/-- What a lock covers looks the same through a transaction's own writes. -/
theorem sameUnder_through (key : LockKey) {state other : WorkflowTables}
    (same : SameUnder key state other) (own : List Writes) :
    SameUnder key { state with tables := seenBy own state.tables }
      { other with tables := seenBy own other.tables } := by
  induction own generalizing state other with
  | nil => exact same
  | cons writes rest ih =>
      have after_one : SameUnder key { state with tables := state.tables.write writes }
          { other with tables := other.tables.write writes } := by
        cases key with
        | advisory key => exact same
        | agentEvent serverId agentEventId =>
            simp only [SameUnder, Database.write_events, hasEvent_append] at same ⊢
            rw [same]
        | incident incidentId =>
            obtain ⟨same_row, same_links⟩ := same
            refine ⟨?_, ?_⟩
            · simp only [incident?_write, same_row]
            · simp only [linksOf_write, same_links]
        | history historyId =>
            simp only [SameUnder, write_history, hasHistory_append] at same ⊢
            rw [same]
      exact ih after_one

end Seen

end WolandGuard.Incidents
