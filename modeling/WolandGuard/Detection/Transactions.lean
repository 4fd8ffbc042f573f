import WolandGuard.Detection.Persistence
import WolandGuard.Incidents.LockedTables

/-!
# Ingestion as a transaction among others

The transaction of `ingest_events` statement by statement at READ COMMITTED. A
batch is inserted row by row under the unique key of events. Every turn takes
the advisory lock of its correlation and reads the history that is committed by
then with the transaction's own rows. `SELECT … FOR UPDATE` finds an active
incident, waits for its row and checks the row again.

The batches of one server come in under different keys of the server: under one
key, `last_used_at` makes transactions wait for each other before the insert.
-/

set_option autoImplicit false

namespace WolandGuard.Detection.Concurrent

open Foundations Outbox Incidents

/-! ## Inserting a batch -/

/-- `insert_event_batch`. -/
def insertEventBatch : List Event → List Event → (List Event → WorkflowProgram) → WorkflowProgram
  | [], inserted, next => next inserted
  | row :: rest, inserted, next =>
      .claim (.agentEvent row.serverId row.agentEventId)
        (fun state => hasEvent (state.tables.events ++ inserted) row.serverId row.agentEventId)
        (.peek fun state =>
          -- the primary key
          if (state.tables.events ++ inserted).any (·.id = row.id) then .rollback
          else insertEventBatch rest (inserted ++ [row]) next)
        (insertEventBatch rest inserted next)

/-! ## Persisting a match -/

section Persist

variable (draws : Draws) (maxAttempts : Nat)

/-- The incident that a match opens. -/
def openedIncident (stored : DetectionRuleVersion) (trigger : Event) (bucket : Bucket)
    (found : DetectionMatch) : Incident :=
  newIncident (draws.incidentId trigger.id stored.id) (draws.now trigger.id stored.id) stored bucket
    trigger found

/-- The branch of `_persist_match` without an active incident. -/
def openIncident (own : List Writes) (stored : DetectionRuleVersion) (trigger : Event)
    (bucket : Bucket) (found : DetectionMatch) (next : List Writes → WorkflowProgram) :
    WorkflowProgram :=
  let now := draws.now trigger.id stored.id
  let incident := openedIncident draws stored trigger bucket found
  let baseline := baselineHistory (draws.historyId incident.id) incident
  .claim (.incident incident.id)
    (fun state => ((seenBy own state.tables).incident? incident.id).isSome)
    (.claim (.history baseline.id)
      (fun state => hasHistory (seenBy own state.tables).history baseline.id)
      (.peek fun state =>
        let db := seenBy own state.tables
        -- the partial unique index over active incidents
        if db.incidents.any fun other => other.bucket = bucket && other.status.isActive then .rollback
        else
          match enqueueIncidentCreatedNotifications (draws.outboxId incident.id) now maxAttempts
            db.destinations incident with
          | .error _ => .rollback
          | .ok outbox =>
              .read fun state =>
                next (own ++ [linkWrites (seenBy own state.tables) incident now trigger found
                  [baseline] outbox]))
      .rollback)
    .rollback

/-- `_persist_match`. -/
def persistMatch (own : List Writes) (stored : DetectionRuleVersion) (trigger : Event)
    (bucket : Bucket) (found : DetectionMatch) (next : List Writes → WorkflowProgram) :
    WorkflowProgram :=
  .peek fun state =>
    match activeIncident (seenBy own state.tables) stored bucket with
    | none => openIncident draws maxAttempts own stored trigger bucket found next
    | some candidate =>
        .lock (.incident candidate.id) (.read fun state =>
          let db := seenBy own state.tables
          match db.incident? candidate.id with
          | none => openIncident draws maxAttempts own stored trigger bucket found next
          | some incident =>
              if incident.bucket = bucket ∧ incident.ruleKey = stored.definition.ruleKey ∧
                  incident.status.isActive = true then
                next (own ++ [linkWrites db incident (draws.now trigger.id stored.id) trigger found
                  [] []])
              else openIncident draws maxAttempts own stored trigger bucket found next)

/-! ## The run over triggers and rules -/

/-- One turn of the inner loop of `run_detection`. -/
def detectOne (own : List Writes) (trigger : Event) (stored : DetectionRuleVersion)
    (next : List Writes → WorkflowProgram) : WorkflowProgram :=
  let rule := stored.definition
  if !canTrigger rule trigger.normalized then next own
  else
    match correlationOf rule trigger.normalized with
    | none => next own
    | some correlation =>
        let bucket := bucketOf stored trigger correlation
        .lock (correlationLock bucket)
          (match windowStart rule trigger with
          | none => .rollback
          | some _ =>
              .peek fun state =>
                match evaluateRule rule trigger
                  (loadHistory (seenBy own state.tables).events rule trigger) with
                | none => next own
                | some found => persistMatch draws maxAttempts own stored trigger bucket found next)

/-- The turns from a point on. -/
def runTurns : List (Event × DetectionRuleVersion) → List Writes →
    (List Writes → WorkflowProgram) → WorkflowProgram
  | [], own, next => next own
  | (trigger, stored) :: rest, own, next =>
      detectOne draws maxAttempts own trigger stored fun own => runTurns rest own next

/-- The transaction of `ingest_events`, for a batch that passed
authentication and the timestamp checks. -/
def ingestEvents (serverId : Uuid) (now : Int) (batch : List NormalizedEventV1) :
    WorkflowProgram :=
  insertEventBatch (batch.map (eventRow draws serverId now)) [] fun inserted =>
    if inserted.isEmpty then .commit id (.ingested 0)
    else
      .peek fun state =>
        runTurns draws maxAttempts (turns (activeRules state.tables) inserted) [.ofEvents inserted]
          fun own =>
            .commit (fun state => { state with tables := seenBy own state.tables })
              (.ingested inserted.length)

end Persist

/-! ## What a transaction writes -/

/-- The writes of one match, on the tables as the transaction sees them. -/
inductive MatchWrites (db : Database) : Writes → Prop where
  | absorb {incident : Incident} {now : Int} {trigger : Event} {found : DetectionMatch} :
      db.incident? incident.id = some incident → incident.status.isActive = true →
      MatchWrites db (linkWrites db incident now trigger found [] [])
  | opened {incident : Incident} {historyId : Uuid} {now : Int} {trigger : Event}
      {found : DetectionMatch} {outbox : List OutboxMessage} :
      db.incident? incident.id = none → hasHistory db.history historyId = false →
      incident.status = .new → incident.lockVersion = 1 →
      MatchWrites db
        (linkWrites db incident now trigger found [baselineHistory historyId incident] outbox)

/-- The writes of a transaction of ingestion: its events, then matches. -/
inductive IngestionWrites (db : Database) : List Writes → Prop where
  | events (inserted : List Event) : IngestionWrites db [.ofEvents inserted]
  | matched {own : List Writes} {writes : Writes} : IngestionWrites db own →
      MatchWrites (seenBy own db) writes → IngestionWrites db (own ++ [writes])

section Performs

variable {draws : Draws} {maxAttempts : Nat} {own : List Writes}
variable {stored : DetectionRuleVersion} {trigger : Event} {bucket : Bucket}
variable {found : DetectionMatch} {next : List Writes → WorkflowProgram}
variable {state after : WorkflowTables} {answer : Answer}

theorem openIncident_performs
    (performs : (openIncident draws maxAttempts own stored trigger bucket found next).Performs
      state after answer) :
    ∃ writes, MatchWrites (seenBy own state.tables) writes ∧
      (next (own ++ [writes])).Performs state after answer := by
  unfold openIncident at performs
  cases performs with
  | claimUsed refused => cases refused
  | claimFree fresh performs =>
      cases performs with
      | claimUsed refused => cases refused
      | claimFree unwritten performs =>
          cases performs with
          | peek seen performs =>
              dsimp only at performs
              split at performs
              · cases performs
              · split at performs
                · cases performs
                · cases performs with
                  | read performs =>
                      refine ⟨_, .opened ?_ unwritten rfl rfl, performs⟩
                      exact Option.not_isSome_iff_eq_none.mp (by simpa using fresh)

theorem persistMatch_performs
    (performs : (persistMatch draws maxAttempts own stored trigger bucket found next).Performs
      state after answer) :
    ∃ writes, MatchWrites (seenBy own state.tables) writes ∧
      (next (own ++ [writes])).Performs state after answer := by
  unfold persistMatch at performs
  cases performs with
  | peek seen performs =>
      dsimp only at performs
      split at performs
      · exact openIncident_performs performs
      · cases performs with
        | lock performs =>
            cases performs with
            | read performs =>
                dsimp only at performs
                split at performs
                · exact openIncident_performs performs
                next incident at_key =>
                  split at performs
                  next matches_row =>
                    have same_id := (rowOf_mem at_key).2
                    exact ⟨_, .absorb (same_id ▸ at_key) matches_row.2.2, performs⟩
                  · exact openIncident_performs performs

/-- **A turn adds the writes of at most one match.** -/
theorem detectOne_performs
    (performs : (detectOne draws maxAttempts own trigger stored next).Performs state after answer) :
    (next own).Performs state after answer ∨
      ∃ writes, MatchWrites (seenBy own state.tables) writes ∧
        (next (own ++ [writes])).Performs state after answer := by
  unfold detectOne at performs
  dsimp only at performs
  split at performs
  · exact .inl performs
  · split at performs
    · exact .inl performs
    · cases performs with
      | lock performs =>
          split at performs
          · cases performs
          · cases performs with
            | peek seen performs =>
                dsimp only at performs
                split at performs
                · exact .inl performs
                · exact .inr (persistMatch_performs performs)

theorem runTurns_performs {items : List (Event × DetectionRuleVersion)}
    (written : IngestionWrites state.tables own)
    (performs : (runTurns draws maxAttempts items own next).Performs state after answer) :
    ∃ all, IngestionWrites state.tables all ∧ (next all).Performs state after answer := by
  induction items generalizing own with
  | nil => exact ⟨own, written, performs⟩
  | cons item rest ih =>
      rcases detectOne_performs performs with unmatched | ⟨writes, matched, performs⟩
      · exact ih written unmatched
      · exact ih (.matched written matched) performs

theorem insertEventBatch_performs {rows inserted : List Event}
    {next : List Event → WorkflowProgram}
    (performs : (insertEventBatch rows inserted next).Performs state after answer) :
    ∃ all, (next all).Performs state after answer := by
  induction rows generalizing inserted with
  | nil => exact ⟨inserted, performs⟩
  | cons row rest ih =>
      unfold insertEventBatch at performs
      cases performs with
      | claimUsed performs => exact ih performs
      | claimFree _ performs =>
          cases performs with
          | peek seen performs =>
              dsimp only at performs
              split at performs
              · cases performs
              · exact ih performs

/-- **A committed ingestion leaves the tables, or adds its events and then the
writes of its matches.** -/
theorem ingestEvents_performs {serverId : Uuid} {now : Int} {batch : List NormalizedEventV1}
    (performs : (ingestEvents draws maxAttempts serverId now batch).Performs state after answer) :
    ∃ accepted, answer = .ingested accepted ∧
      (after = state ∨
        ∃ own, IngestionWrites state.tables own ∧
          after = { state with tables := seenBy own state.tables }) := by
  obtain ⟨inserted, performs⟩ := insertEventBatch_performs performs
  split at performs
  · cases performs with
    | commit => exact ⟨0, rfl, .inl rfl⟩
  · cases performs with
    | peek seen performs =>
        obtain ⟨own, written, performs⟩ := runTurns_performs (.events inserted) performs
        cases performs with
        | commit => exact ⟨_, rfl, .inr ⟨own, written, rfl⟩⟩

end Performs

/-! ## The locks of a transaction -/

section Locks

variable {draws : Draws} {maxAttempts : Nat} {own : List Writes} {held : List LockKey}
variable {stored : DetectionRuleVersion} {trigger : Event} {bucket : Bucket}
variable {found : DetectionMatch} {next : List Writes → WorkflowProgram}

/-- The writes on an incident whose lock is held. -/
theorem linkWrites_under {db : Database} {incident : Incident} {now : Int}
    {history : List IncidentHistoryEntry} {outbox : List OutboxMessage}
    (row : LockKey.incident incident.id ∈ held)
    (entries : ∀ entry ∈ history, LockKey.history entry.id ∈ held) :
    WritesUnder held (linkWrites db incident now trigger found history outbox) where
  events := by simp [linkWrites]
  incident := by
    rintro _ ⟨rfl⟩
    exact row
  links := by
    intro link member
    simp only [linkWrites, newLinks, List.mem_map] at member
    obtain ⟨_, _, rfl⟩ := member
    exact row
  history := entries

/-- The writes on an incident depend on what its lock covers. -/
theorem linkWrites_congr {incident : Incident} {now : Int} {history : List IncidentHistoryEntry}
    {outbox : List OutboxMessage} {state other : WorkflowTables}
    (same : SameUnder (.incident incident.id) state other) (own : List Writes) :
    linkWrites (seenBy own state.tables) incident now trigger found history outbox =
      linkWrites (seenBy own other.tables) incident now trigger found history outbox := by
  have links := (sameUnder_through (.incident incident.id) same own).2
  simp only at links
  simp only [linkWrites, newLinks, links]

/-- What follows is well locked under more locks and with more own writes. -/
def Continues (held : List LockKey) (next : List Writes → WorkflowProgram) : Prop :=
  ∀ own more, held ⊆ more → (∀ writes ∈ own, WritesUnder more writes) →
    (next own).WellLocked SameUnder more

theorem Continues.mono {more : List LockKey} (continues : Continues held next)
    (subset : held ⊆ more) : Continues more next :=
  fun own further further_subset => continues own further (List.Subset.trans subset further_subset)

theorem under_append {writes : Writes} (under : ∀ earlier ∈ own, WritesUnder held earlier)
    (last : WritesUnder held writes) : ∀ one ∈ own ++ [writes], WritesUnder held one := by
  intro one member
  rcases List.mem_append.mp member with earlier | here
  · exact under one earlier
  · obtain rfl := List.mem_singleton.mp here
    exact last

theorem openIncident_wellLocked (continues : Continues held next)
    (under : ∀ writes ∈ own, WritesUnder held writes) :
    (openIncident draws maxAttempts own stored trigger bucket found next).WellLocked
      SameUnder held := by
  unfold openIncident
  refine ⟨fun state other same => ?_, ⟨fun state other same => ?_, fun seen => ?_, trivial⟩, trivial⟩
  · have row := (sameUnder_through _ same own).1
    simp only at row
    simp only [row]
  · exact sameUnder_through _ same own
  · dsimp only
    split
    · trivial
    split
    · trivial
    next outbox _ =>
      refine ⟨fun state other agree => ?_, fun state => ?_⟩
      · dsimp only
        rw [linkWrites_congr (agree _ (by simp)) own]
      · refine continues _ _ (fun key member => by simp [member]) (under_append ?_ ?_)
        · exact fun earlier member => (under earlier member).mono fun key held_key => by
            simp [held_key]
        · exact linkWrites_under (by simp) (by simp)

theorem persistMatch_wellLocked (continues : Continues held next)
    (under : ∀ writes ∈ own, WritesUnder held writes) :
    (persistMatch draws maxAttempts own stored trigger bucket found next).WellLocked
      SameUnder held := by
  unfold persistMatch
  intro seen
  dsimp only
  split
  · exact openIncident_wellLocked continues under
  next candidate _ =>
    have continues' : Continues (.incident candidate.id :: held) next :=
      continues.mono (List.subset_cons_self _ _)
    have under' : ∀ writes ∈ own, WritesUnder (.incident candidate.id :: held) writes :=
      fun writes member => (under writes member).mono (List.subset_cons_self _ _)
    refine ⟨fun state other agree => ?_, fun state => ?_⟩
    · have same : SameUnder (.incident candidate.id) state other := agree _ List.mem_cons_self
      have row := (sameUnder_through _ same own).1
      simp only at row
      simp only [row]
      split
      · rfl
      next incident at_key =>
        obtain same_id := (rowOf_mem at_key).2
        rw [linkWrites_congr (by rw [same_id]; exact same) own]
    · dsimp only
      split
      · exact openIncident_wellLocked continues' under'
      next incident at_key =>
        split
        · refine continues' _ _ (List.Subset.refl _) (under_append under' ?_)
          have same_id := (rowOf_mem at_key).2
          exact linkWrites_under (by simp [same_id]) (by simp)
        · exact openIncident_wellLocked continues' under'

theorem detectOne_wellLocked (continues : Continues held next)
    (under : ∀ writes ∈ own, WritesUnder held writes) :
    (detectOne draws maxAttempts own trigger stored next).WellLocked SameUnder held := by
  unfold detectOne
  dsimp only
  split
  · exact continues own held (List.Subset.refl _) under
  split
  · exact continues own held (List.Subset.refl _) under
  next correlation _ =>
    have subset : held ⊆ correlationLock (bucketOf stored trigger correlation) :: held :=
      List.subset_cons_self _ _
    have under' : ∀ writes ∈ own,
        WritesUnder (correlationLock (bucketOf stored trigger correlation) :: held) writes :=
      fun writes member => (under writes member).mono subset
    unfold Program.WellLocked
    split
    · trivial
    · intro seen
      dsimp only
      split
      · exact continues own _ subset under'
      · exact persistMatch_wellLocked (continues.mono subset) under'

theorem runTurns_wellLocked {items : List (Event × DetectionRuleVersion)}
    (continues : Continues held next) (under : ∀ writes ∈ own, WritesUnder held writes) :
    (runTurns draws maxAttempts items own next).WellLocked SameUnder held := by
  induction items generalizing own held with
  | nil => exact continues own held (List.Subset.refl _) under
  | cons item rest ih =>
      exact detectOne_wellLocked (fun more further subset under_more =>
        ih (continues.mono subset) under_more) under

theorem insertEventBatch_wellLocked {rows inserted : List Event}
    {next : List Event → WorkflowProgram}
    (continues : ∀ all more, held ⊆ more →
      (∀ event ∈ all, LockKey.agentEvent event.serverId event.agentEventId ∈ more) →
        (next all).WellLocked SameUnder more)
    (under : ∀ event ∈ inserted, LockKey.agentEvent event.serverId event.agentEventId ∈ held) :
    (insertEventBatch rows inserted next).WellLocked SameUnder held := by
  induction rows generalizing inserted held with
  | nil => exact continues inserted held (List.Subset.refl _) under
  | cons row rest ih =>
      unfold insertEventBatch
      refine ⟨fun state other same => ?_, fun seen => ?_, ih continues under⟩
      · simp only [SameUnder] at same
        simp only [hasEvent_append, same]
      · dsimp only
        split
        · trivial
        · refine ih (fun all more subset => continues all more ?_) ?_
          · exact List.Subset.trans (List.subset_cons_self _ _) subset
          · intro event member
            rcases List.mem_append.mp member with earlier | here
            · exact List.mem_cons_of_mem _ (under event earlier)
            · obtain rfl := List.mem_singleton.mp here
              exact List.mem_cons_self

/-- **The locks of an ingestion cover its writes.** -/
theorem ingestEvents_wellLocked (draws : Draws) (maxAttempts : Nat) (serverId : Uuid) (now : Int)
    (batch : List NormalizedEventV1) :
    (ingestEvents draws maxAttempts serverId now batch).WellLocked SameUnder [] := by
  unfold ingestEvents
  refine insertEventBatch_wellLocked (fun inserted held _ inserted_under => ?_) (by simp)
  split
  · exact fun state key _ => (sameUnder_equivalence key).refl state
  · intro seen
    refine runTurns_wellLocked (fun own more _ under state key outside =>
      sameUnder_seenBy under outside state) ?_
    intro writes member
    obtain rfl := List.mem_singleton.mp member
    exact ⟨inserted_under, by simp [Writes.ofEvents], by simp [Writes.ofEvents],
      by simp [Writes.ofEvents]⟩

end Locks

end WolandGuard.Detection.Concurrent
