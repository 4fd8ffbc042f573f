import Mathlib.Data.List.Chain
import WolandGuard.Detection.ArrivalOrder
import WolandGuard.Incidents.Transactions

/-!
# The history of an incident

Transitions, comments, ingestion and changes of the configuration commit in any
order. The history of every incident stays a chain of allowed transitions from
its baseline to its status, with an audit entry for each of them.
-/

set_option autoImplicit false

namespace WolandGuard.Incidents

open Foundations Concurrent

/-! ## Faithful histories -/

/-- One entry follows another. -/
def Follows (earlier later : IncidentHistoryEntry) : Prop :=
  later.fromStatus = some earlier.toStatus ∧
    isTransitionAllowed earlier.toStatus later.toStatus = true

/-- The history of an incident, oldest entry first: the versions up to its lock
version, the baseline and then transitions, each from where the one before went
to and the last one to the status of the incident. -/
structure FaithfulHistory (incident : Incident) (entries : List IncidentHistoryEntry) : Prop where
  versions : entries.map IncidentHistoryEntry.version = List.range' 1 incident.lockVersion
  baseline : ∀ entry ∈ entries,
    entry.entryType = .baseline ↔ entry.version = 1
  origin : ∀ entry ∈ entries, entry.entryType = .baseline →
    entry.fromStatus = none ∧ entry.toStatus = .new
  chain : entries.IsChain Follows
  last : (entries.getLast?.map IncidentHistoryEntry.toStatus) = some incident.status
  reasons : ∀ entry ∈ entries, entry.toStatus.isActive = false → entry.reason.isSome = true

/-- The history depends on the version and the status of the row. -/
theorem FaithfulHistory.of_row {incident row : Incident} {entries : List IncidentHistoryEntry}
    (faithful : FaithfulHistory incident entries) (lockVersion : row.lockVersion = incident.lockVersion)
    (status : row.status = incident.status) : FaithfulHistory row entries :=
  { faithful with
    versions := by rw [lockVersion, faithful.versions]
    last := by rw [status, faithful.last] }

/-- A new incident has its baseline. -/
theorem FaithfulHistory.opened {incident : Incident} (status : incident.status = .new)
    (lockVersion : incident.lockVersion = 1) (historyId : Uuid) :
    FaithfulHistory incident [Detection.baselineHistory historyId incident] where
  versions := by simp [lockVersion, Detection.baselineHistory]
  baseline := by simp [Detection.baselineHistory]
  origin := by simp [Detection.baselineHistory, status]
  chain := List.isChain_singleton _
  last := rfl
  reasons := by simp [Detection.baselineHistory, status, IncidentStatus.isActive]

/-- **A transition extends the history by one entry.** -/
theorem FaithfulHistory.transitioned {incident : Incident} {entries : List IncidentHistoryEntry}
    {request : TransitionRequest} (faithful : FaithfulHistory incident entries)
    (allowed : isTransitionAllowed incident.status request.transition.targetStatus = true)
    (reasoned : request.transition.targetStatus.isActive = false →
      request.transition.reason.isSome = true) (historyId : Uuid) (now : Int) :
    FaithfulHistory (transitioned incident request.transition.targetStatus now)
      (entries ++ [transitionHistory historyId now request incident]) where
  versions := by
    rw [List.map_append, faithful.versions]
    show _ = List.range' 1 (incident.lockVersion + 1)
    rw [List.range'_1_concat, Nat.add_comm 1]
    rfl
  baseline entry member := by
    rcases List.mem_append.mp member with earlier | here
    · exact faithful.baseline entry earlier
    · obtain rfl := List.mem_singleton.mp here
      have nonempty : entries ≠ [] := by
        rintro rfl
        simpa using faithful.last
      have positive : incident.lockVersion ≠ 0 := by
        intro zero
        have none_left := faithful.versions
        rw [zero] at none_left
        exact nonempty (by simpa using none_left)
      simp [transitionHistory, positive]
  origin entry member is_baseline := by
    rcases List.mem_append.mp member with earlier | here
    · exact faithful.origin entry earlier is_baseline
    · obtain rfl := List.mem_singleton.mp here
      cases is_baseline
  chain := by
    refine List.isChain_append.mpr ⟨faithful.chain, List.isChain_singleton _, ?_⟩
    intro earlier is_last later is_next
    obtain rfl : transitionHistory historyId now request incident = later := by
      simpa using is_next
    have reached : earlier.toStatus = incident.status := by
      have last := faithful.last
      rw [Option.mem_def.mp is_last] at last
      exact Option.some.inj last
    exact ⟨by rw [reached]; rfl, by rw [reached]; exact allowed⟩
  last := by
    rw [List.getLast?_concat]
    rfl
  reasons entry member terminal := by
    rcases List.mem_append.mp member with earlier | here
    · exact faithful.reasons entry earlier terminal
    · obtain rfl := List.mem_singleton.mp here
      exact reasoned terminal

/-! ## The invariant of the tables -/

/-- The audit entries that are linked to a history entry. -/
def linkedAudit (auditLog : List AuditLogEntry) (historyId : Uuid) : List AuditLogEntry :=
  auditLog.filter fun entry => entry.incidentHistoryId = some historyId

/-- The transitions among the entries with an id. -/
def transitionsWith (history : List IncidentHistoryEntry) (historyId : Uuid) :
    List IncidentHistoryEntry :=
  history.filter fun entry => entry.id = historyId && entry.entryType = .statusTransition

/-- Every incident has a faithful history, and every transition its audit
entry. -/
structure ChainInvariant (state : WorkflowTables) : Prop where
  incidentIds : (state.tables.incidents.map Incident.id).Nodup
  histories : ∀ incident ∈ state.tables.incidents,
    FaithfulHistory incident (historyOf state.tables incident.id)
  owners : ∀ entry ∈ state.tables.history,
    ∃ incident ∈ state.tables.incidents, incident.id = entry.incidentId
  historyIds : (state.tables.history.map IncidentHistoryEntry.id).Nodup
  audited : ∀ historyId, (linkedAudit state.auditLog historyId).length =
    (transitionsWith state.tables.history historyId).length

/-- What a commit may do to incidents: a history is extended only while the
incident is active. -/
structure Extends (state after : WorkflowTables) : Prop where
  incidents : ∀ incident ∈ state.tables.incidents, ∃ later ∈ after.tables.incidents,
    later.id = incident.id ∧
      (∃ more, historyOf after.tables incident.id = historyOf state.tables incident.id ++ more) ∧
      (incident.status.isActive = false → later.status = incident.status ∧
        later.lockVersion = incident.lockVersion ∧
        historyOf after.tables incident.id = historyOf state.tables incident.id)

theorem Extends.refl (state : WorkflowTables) : Extends state state where
  incidents incident member := ⟨incident, member, rfl, ⟨[], by simp⟩, fun _ => ⟨rfl, rfl, rfl⟩⟩

theorem Extends.trans {first second third : WorkflowTables} (left : Extends first second)
    (right : Extends second third) : Extends first third where
  incidents incident member := by
    obtain ⟨later, later_member, same_id, ⟨more, grown⟩, kept⟩ := left.incidents incident member
    obtain ⟨last, last_member, last_id, ⟨further, last_grown⟩, last_kept⟩ :=
      right.incidents later later_member
    rw [same_id] at last_id last_grown last_kept
    refine ⟨last, last_member, last_id, ⟨more ++ further, ?_⟩, fun terminal => ?_⟩
    · rw [last_grown, grown, List.append_assoc]
    · obtain ⟨status, lockVersion, same_history⟩ := kept terminal
      obtain ⟨last_status, last_version, last_history⟩ := last_kept (by rw [status, terminal])
      exact ⟨last_status.trans status, last_version.trans lockVersion,
        last_history.trans same_history⟩

section Steps

variable {state after : WorkflowTables}

/-- The invariant and the relation depend on incidents, history and audit
log. -/
theorem ChainInvariant.of_eq (inv : ChainInvariant state)
    (incidents : after.tables.incidents = state.tables.incidents)
    (history : after.tables.history = state.tables.history)
    (audit : ∀ historyId, linkedAudit after.auditLog historyId =
      linkedAudit state.auditLog historyId) :
    ChainInvariant after ∧ Extends state after := by
  have same_history : ∀ incidentId,
      historyOf after.tables incidentId = historyOf state.tables incidentId := by
    intro incidentId
    rw [historyOf, history, historyOf]
  refine ⟨⟨?_, ?_, ?_, ?_, ?_⟩, ⟨fun incident member => ?_⟩⟩
  · rw [incidents]
    exact inv.incidentIds
  · intro incident member
    rw [incidents] at member
    rw [same_history]
    exact inv.histories incident member
  · rw [history, incidents]
    exact inv.owners
  · rw [history]
    exact inv.historyIds
  · intro historyId
    rw [audit, history]
    exact inv.audited historyId
  · exact ⟨incident, incidents ▸ member, rfl, ⟨[], by simp [same_history]⟩,
      fun _ => ⟨rfl, rfl, same_history _⟩⟩

/-- **Writing one row with the history it needs keeps the invariant.** -/
theorem ChainInvariant.put (inv : ChainInvariant state) (row : Incident)
    (entries : List IncidentHistoryEntry) (rows : List AuditLogEntry)
    (incidents : after.tables.incidents = putRow Incident.id row state.tables.incidents)
    (history : after.tables.history = state.tables.history ++ entries)
    (audit : after.auditLog = state.auditLog ++ rows)
    (own : ∀ entry ∈ entries, entry.incidentId = row.id)
    (ids : (entries.map IncidentHistoryEntry.id).Nodup)
    (fresh : ∀ entry ∈ entries, hasHistory state.tables.history entry.id = false)
    (faithful : FaithfulHistory row (historyOf state.tables row.id ++ entries))
    (audited : ∀ historyId, (linkedAudit rows historyId).length =
      (transitionsWith entries historyId).length)
    (terminal : ∀ incident ∈ state.tables.incidents, incident.id = row.id →
      incident.status.isActive = false →
        row.status = incident.status ∧ row.lockVersion = incident.lockVersion ∧ entries = []) :
    ChainInvariant after ∧ Extends state after := by
  have history_own : historyOf after.tables row.id = historyOf state.tables row.id ++ entries := by
    have all : entries.filter (·.incidentId = row.id) = entries := by
      simpa [List.filter_eq_self] using own
    rw [historyOf, history, List.filter_append, all, historyOf]
  have history_other : ∀ incidentId, incidentId ≠ row.id →
      historyOf after.tables incidentId = historyOf state.tables incidentId := by
    intro incidentId other
    have none_here : entries.filter (·.incidentId = incidentId) = [] := by
      simp only [List.filter_eq_nil_iff, decide_eq_true_eq]
      intro entry member same
      exact other (same.symm.trans (own entry member))
    rw [historyOf, history, List.filter_append, none_here, List.append_nil, historyOf]
  refine ⟨⟨?_, ?_, ?_, ?_, ?_⟩, ⟨fun incident member => ?_⟩⟩
  · rw [incidents]
    exact nodup_putRow inv.incidentIds
  · intro incident member
    rw [incidents] at member
    rcases mem_putRow.mp member with rfl | ⟨old, other⟩
    · rw [history_own]
      exact faithful
    · rw [history_other _ other]
      exact inv.histories incident old
  · intro entry member
    rw [history] at member
    rw [incidents]
    rcases List.mem_append.mp member with old | new
    · obtain ⟨incident, incident_member, same⟩ := inv.owners entry old
      by_cases replaced : incident.id = row.id
      · exact ⟨row, mem_putRow.mpr (.inl rfl), replaced.symm.trans same⟩
      · exact ⟨incident, mem_putRow.mpr (.inr ⟨incident_member, replaced⟩), same⟩
    · exact ⟨row, mem_putRow.mpr (.inl rfl), (own entry new).symm⟩
  · rw [history, List.map_append, List.nodup_append]
    refine ⟨inv.historyIds, ids, ?_⟩
    rintro id old_id other new_id rfl
    obtain ⟨old, old_member, same⟩ := List.mem_map.mp old_id
    obtain ⟨new, new_member, new_same⟩ := List.mem_map.mp new_id
    have unused := fresh new new_member
    simp only [hasHistory, List.any_eq_false, decide_eq_true_eq] at unused
    exact unused old old_member (same.trans new_same.symm)
  · intro historyId
    have old := inv.audited historyId
    have new := audited historyId
    simp only [linkedAudit, transitionsWith] at old new ⊢
    rw [audit, history, List.filter_append, List.filter_append, List.length_append,
      List.length_append, old, new]
  · by_cases replaced : incident.id = row.id
    · refine ⟨row, ?_, replaced.symm, ⟨entries, by rw [replaced, history_own]⟩, fun inactive => ?_⟩
      · rw [incidents]
        exact mem_putRow.mpr (.inl rfl)
      · obtain ⟨status, lockVersion, rfl⟩ := terminal incident member replaced inactive
        exact ⟨status, lockVersion, by rw [replaced, history_own, List.append_nil]⟩
    · refine ⟨incident, ?_, rfl, ⟨[], by rw [history_other _ replaced, List.append_nil]⟩,
        fun _ => ⟨rfl, rfl, history_other _ replaced⟩⟩
      rw [incidents]
      exact mem_putRow.mpr (.inr ⟨member, replaced⟩)

/-- The incident under an id is the row of the table. -/
theorem ChainInvariant.row_unique (inv : ChainInvariant state) {incident other : Incident}
    (found : state.tables.incident? incident.id = some incident)
    (member : other ∈ state.tables.incidents) (same : other.id = incident.id) :
    other = incident := by
  have here := rowOf_of_mem inv.incidentIds member
  rw [same] at here
  exact Option.some.inj (here.symm.trans found)

/-- No history belongs to an id without an incident. -/
theorem ChainInvariant.history_nil (inv : ChainInvariant state) {incidentId : Uuid}
    (absent : state.tables.incident? incidentId = none) :
    historyOf state.tables incidentId = [] := by
  simp only [historyOf, List.filter_eq_nil_iff, decide_eq_true_eq]
  intro entry member same
  obtain ⟨incident, incident_member, owner⟩ := inv.owners entry member
  exact rowOf_eq_none.mp absent incident incident_member (owner.trans same)

/-- The writes of a match keep the invariant. -/
theorem ChainInvariant.matched (inv : ChainInvariant state) {writes : Writes}
    (matched : Detection.Concurrent.MatchWrites state.tables writes) :
    ChainInvariant { state with tables := state.tables.write writes } ∧
      Extends state { state with tables := state.tables.write writes } := by
  cases matched with
  | @absorb incident now trigger found present active =>
      have member := (rowOf_mem present).1
      refine inv.put (Detection.absorbed incident now trigger found.evidence _) [] [] rfl rfl
        (by simp) (by simp) (by simp) (by simp) ?_ (by simp [linkedAudit, transitionsWith]) ?_
      · rw [List.append_nil]
        exact (inv.histories incident member).of_row rfl rfl
      · intro other other_member same inactive
        obtain rfl := inv.row_unique present other_member same
        rw [active] at inactive
        cases inactive
  | @opened incident historyId now trigger found outbox absent unused status lockVersion =>
      refine inv.put (Detection.absorbed incident now trigger found.evidence _)
        [Detection.baselineHistory historyId incident] [] rfl rfl (by simp)
        (by simp [Detection.baselineHistory, Detection.absorbed]) (by simp)
        (by simpa [Detection.baselineHistory] using unused) ?_
        (by simp [linkedAudit, transitionsWith, Detection.baselineHistory]) ?_
      · have none_yet : historyOf state.tables incident.id = [] := inv.history_nil absent
        simp only [Detection.absorbed, none_yet, List.nil_append]
        exact (FaithfulHistory.opened status lockVersion historyId).of_row rfl rfl
      · intro other other_member same
        exact absurd same (rowOf_eq_none.mp absent other other_member)

/-- The writes of an ingestion keep the invariant. -/
theorem ChainInvariant.ingested (inv : ChainInvariant state) {own : List Writes}
    (written : Detection.Concurrent.IngestionWrites state.tables own) :
    ChainInvariant { state with tables := seenBy own state.tables } ∧
      Extends state { state with tables := seenBy own state.tables } := by
  induction written with
  | events inserted => exact inv.of_eq rfl (by simp [Writes.ofEvents]) fun _ => rfl
  | @matched own writes _ matched ih =>
      obtain ⟨inv_before, extends_before⟩ := ih
      have step := inv_before.matched matched
      rw [seenBy_append, seenBy_singleton]
      exact ⟨step.1, extends_before.trans step.2⟩

/-- An applied transition keeps the invariant. -/
theorem ChainInvariant.applied (inv : ChainInvariant state) {request : TransitionRequest}
    {historyId : Uuid} {now : Int} {incident : Incident} {entry : AuditLogEntry}
    (applies : Applies state.tables request incident)
    (unused : hasHistory state.tables.history historyId = false)
    (linked : entry.incidentHistoryId = some historyId)
    (reasoned : request.transition.targetStatus.isActive = false →
      request.transition.reason.isSome = true) :
    ChainInvariant (transitionApplied request historyId now incident entry state) ∧
      Extends state (transitionApplied request historyId now incident entry state) := by
  obtain ⟨member, same_id⟩ := rowOf_mem applies.found
  refine inv.put (transitioned incident request.transition.targetStatus now)
    [transitionHistory historyId now request incident] [entry] rfl rfl rfl
    (by simp [transitionHistory, transitioned]) (by simp)
    (by simpa [transitionHistory] using unused) ?_ ?_ ?_
  · exact (inv.histories incident member).transitioned applies.allowed reasoned historyId now
  · intro other_id
    simp only [linkedAudit, transitionsWith, List.filter_cons, List.filter_nil, linked,
      transitionHistory, Option.some.injEq]
    by_cases same : historyId = other_id
    · simp [same]
    · simp [same]
  · intro other other_member same inactive
    have found : state.tables.incident? incident.id = some incident := by
      rw [same_id]
      exact applies.found
    obtain rfl := inv.row_unique found other_member same
    rw [isActive_of_allowed applies.allowed] at inactive
    cases inactive

/-- **Every commit keeps the invariant and extends histories.** -/
theorem ChainInvariant.serves {unicode : UnicodeData} {served : Operation unicode × Answer}
    (inv : ChainInvariant state)
    (serves : Transactions.Serves Operation.code state served after) :
    ChainInvariant after ∧ Extends state after := by
  obtain ⟨operation, answer⟩ := served
  cases operation with
  | transition submitted historyId auditId now =>
      obtain ⟨outcome, rfl, effect⟩ := transitionIncident_performs serves
      cases effect with
      | replayed existing used => exact ⟨inv, .refl state⟩
      | refused httpStatus body conflict unused _ => exact inv.of_eq rfl rfl fun _ => rfl
      | applied incident entry applies unused recorded =>
          exact inv.applied applies unused (recordOperatorAction_ok recorded).1
            submitted.submitted.reasoned
  | comment request commentId auditId now =>
      obtain ⟨outcome, rfl, effect⟩ := addIncidentComment_performs serves
      cases effect with
      | replayed existing used => exact ⟨inv, .refl state⟩
      | notFound unused => exact inv.of_eq rfl rfl fun _ => rfl
      | added entry unused recorded =>
          refine inv.of_eq rfl rfl fun historyId => ?_
          have unlinked := (recordOperatorAction_ok recorded).1
          simp [commentAdded, linkedAudit, List.filter_append, unlinked]
  | ingest draws maxAttempts serverId now batch =>
      obtain ⟨_, _, rfl | ⟨own, written, rfl⟩⟩ :=
        Detection.Concurrent.ingestEvents_performs serves
      · exact ⟨inv, .refl _⟩
      · exact inv.ingested written
  | configure ruleVersions destinations =>
      cases serves with
      | commit => exact inv.of_eq rfl rfl fun _ => rfl

/-- A transition has one audit entry, a baseline none. -/
theorem ChainInvariant.linked (inv : ChainInvariant state) {entry : IncidentHistoryEntry}
    (member : entry ∈ state.tables.history) :
    (linkedAudit state.auditLog entry.id).length =
      if entry.entryType = .baseline then 0 else 1 := by
  rw [inv.audited, transitionsWith,
    filter_key_of_mem inv.historyIds member (·.entryType = .statusTransition)]
  cases entry.entryType <;> rfl

end Steps

theorem chainInvariant_of_run {unicode : UnicodeData} {start finish : WorkflowTables}
    {path : List (Served unicode)}
    (run : Run (Transactions.Serves Operation.code) start path finish)
    (inv : ChainInvariant start) : ChainInvariant finish :=
  run.invariant (fun _ _ _ holds serves => (holds.serves serves).1) inv

theorem extends_of_run {unicode : UnicodeData} {start finish : WorkflowTables}
    {path : List (Served unicode)}
    (run : Run (Transactions.Serves Operation.code) start path finish)
    (inv : ChainInvariant start) : Extends start finish :=
  run.relates Extends.refl (fun _ _ _ => Extends.trans)
    (fun _ _ _ holds serves => (holds.serves serves).1)
    (fun _ _ _ holds serves => (holds.serves serves).2) inv

theorem ChainInvariant.installed (ruleVersions : List DetectionRuleVersion)
    (destinations : List Outbox.NotificationDestination) :
    ChainInvariant (.installed ruleVersions destinations) where
  incidentIds := List.nodup_nil
  histories := by simp [WorkflowTables.installed, Database.empty]
  owners := by simp [WorkflowTables.installed, Database.empty]
  historyIds := List.nodup_nil
  audited := by simp [WorkflowTables.installed, Database.empty, linkedAudit, transitionsWith]

/-! ## Whole runs -/

/-- The conflict that an answer reports. -/
def Answer.conflictType? : Answer → Option String
  | .transition outcome => outcome.conflictType
  | .comment outcome => outcome.conflictType
  | .ingested _ => none
  | .configured => none

/-- A request that ends in a conflict changes no more than the stored
outcomes. -/
theorem unchanged_of_conflict {unicode : UnicodeData} {state after : WorkflowTables}
    {served : Operation unicode × Answer}
    (serves : Transactions.Serves Operation.code state served after)
    (conflict : served.2.conflictType?.isSome = true) :
    after.tables.incidents = state.tables.incidents ∧
      after.tables.history = state.tables.history ∧ after.auditLog = state.auditLog ∧
      after.comments = state.comments := by
  obtain ⟨operation, answer⟩ := served
  cases operation with
  | transition submitted historyId auditId now =>
      obtain ⟨outcome, rfl, effect⟩ := transitionIncident_performs serves
      cases effect with
      | replayed existing used => exact ⟨rfl, rfl, rfl, rfl⟩
      | refused httpStatus body conflictType unused _ => exact ⟨rfl, rfl, rfl, rfl⟩
      | applied incident entry applies unused recorded => cases conflict
  | comment request commentId auditId now =>
      obtain ⟨outcome, rfl, effect⟩ := addIncidentComment_performs serves
      cases effect with
      | replayed existing used => exact ⟨rfl, rfl, rfl, rfl⟩
      | notFound unused => exact ⟨rfl, rfl, rfl, rfl⟩
      | added entry unused recorded => cases conflict
  | ingest draws maxAttempts serverId now batch =>
      obtain ⟨accepted, rfl, _⟩ := Detection.Concurrent.ingestEvents_performs serves
      cases conflict
  | configure ruleVersions destinations =>
      cases serves with
      | commit => exact ⟨rfl, rfl, rfl, rfl⟩

/-- **The history of every incident is a faithful chain.** In every reachable
state each incident has the versions up to its lock version, from the baseline
to its status, each transition with one audit entry. An incident that a commit
leaves in a terminal status keeps it and its history, and a request that ends
in a conflict changes no incident, history, audit entry or comment. -/
theorem incident_history_chain {unicode : UnicodeData} {ruleVersions : List DetectionRuleVersion}
    {destinations : List Outbox.NotificationDestination}
    {path : List (Moved unicode)} {finish : Installation unicode}
    (run : Run (Transactions.Step Operation.code)
      (.idle (.installed ruleVersions destinations)) path finish) :
    (∀ incident ∈ finish.committed.tables.incidents,
      FaithfulHistory incident (historyOf finish.committed.tables incident.id) ∧
        ∀ entry ∈ historyOf finish.committed.tables incident.id,
          (linkedAudit finish.committed.auditLog entry.id).length =
            if entry.entryType = .baseline then 0 else 1) ∧
    (∀ moved ∈ path, ∀ incident ∈ moved.after.committed.tables.incidents,
      incident.status.isActive = false →
        ∃ later ∈ finish.committed.tables.incidents, later.id = incident.id ∧
          later.status = incident.status ∧ later.lockVersion = incident.lockVersion ∧
          historyOf finish.committed.tables incident.id =
            historyOf moved.after.committed.tables incident.id) ∧
    ∀ served ∈ Transactions.commits path, served.label.2.conflictType?.isSome = true →
      served.after.tables.incidents = served.before.tables.incidents ∧
        served.after.tables.history = served.before.tables.history ∧
        served.after.auditLog = served.before.auditLog ∧
        served.after.comments = served.before.comments := by
  have commits := serial_commits run rfl
  have inv := chainInvariant_of_run commits (.installed ruleVersions destinations)
  refine ⟨fun incident member => ⟨inv.histories incident member, fun entry entry_member => ?_⟩,
    fun moved member incident incident_member terminal => ?_, fun served member conflict => ?_⟩
  · exact inv.linked (List.mem_filter.mp entry_member).1
  · obtain ⟨⟨_, reached⟩, ⟨_, remaining⟩⟩ := serial_commits_around run rfl member
    have inv_there := chainInvariant_of_run reached (.installed ruleVersions destinations)
    obtain ⟨later, later_member, same_id, _, kept⟩ :=
      (extends_of_run remaining inv_there).incidents incident incident_member
    exact ⟨later, later_member, same_id, kept terminal⟩
  · exact unchanged_of_conflict (commits.taken_step member) conflict

/-! ## A run -/

/-- An operator with an API key. -/
def sampleOperator : OperatorPrincipal := ⟨1, "alice", .analyst, .operatorApiKey, 1⟩

/-- A request of the operator for the incident of the brute force. -/
def sampleTransition (transition : NormalizedTransition) (idempotencyKey : String) :
    TransitionRequest :=
  transitionRequestOf sampleOperator 8 transition idempotencyKey "request"

def investigateBruteforce : SubmittedTransition .ascii :=
  ⟨sampleTransition ⟨.investigating, 1, none⟩ "first",
    have normalized : normalizeTransition .ascii .investigating 1 none =
        .ok ⟨.investigating, 1, none⟩ := by decide
    .form (by decide) normalized⟩

def resolveBruteforce (idempotencyKey : String) (valid : isIdempotencyKey idempotencyKey = true) :
    SubmittedTransition .ascii :=
  ⟨sampleTransition ⟨.resolved, 2, some "blocked"⟩ idempotencyKey,
    have normalized : normalizeTransition .ascii .resolved 2 (some " blocked") =
        .ok ⟨.resolved, 2, some "blocked"⟩ := by decide +kernel
    .form valid normalized⟩

theorem isIdempotencyKey_third : isIdempotencyKey "third" = true := by decide

/-- A brute force that is investigated, commented on and resolved, with a
resolution that comes too late. -/
def bruteforceHandled : List (Operation .ascii) :=
  [.ingest Detection.sampleDraws 5 1 0 Detection.sevenFailures,
    .ingest Detection.sampleDraws 5 1 0 [Detection.failureAt 8],
    .transition investigateBruteforce 21 31 1,
    .comment ⟨sampleOperator, 8, ⟨"seen"⟩, "second", "request"⟩ 41 32 2,
    .transition (resolveBruteforce "third" isIdempotencyKey_third) 22 33 3,
    .transition (resolveBruteforce "fourth" (by decide)) 23 34 4]

/-- The tables after the brute force is handled. -/
def bruteforceTables : WorkflowTables :=
  bruteforceHandled.foldl (Transactions.serveAlone Operation.code)
    (.installed [Detection.bruteforceVersion] [])

/-- The incident ends resolved with its three versions, and each transition has
its audit entry. -/
theorem incident_history_chain_bruteforce :
    ∃ incident ∈ bruteforceTables.tables.incidents, incident.status = .resolved ∧
      FaithfulHistory incident (historyOf bruteforceTables.tables incident.id) ∧
      (historyOf bruteforceTables.tables incident.id).map IncidentHistoryEntry.version = [1, 2, 3] := by
  have present : ∃ incident ∈ bruteforceTables.tables.incidents, incident.status = .resolved ∧
      (historyOf bruteforceTables.tables incident.id).map IncidentHistoryEntry.version =
        [1, 2, 3] := by
    decide +kernel
  obtain ⟨incident, member, resolved, versions⟩ := present
  obtain ⟨path, run, _⟩ := Transactions.run_serveAlone
    (WorkflowTables.installed [Detection.bruteforceVersion] []) bruteforceHandled
  exact ⟨incident, member, resolved, ((incident_history_chain run).1 incident member).1, versions⟩

end WolandGuard.Incidents
