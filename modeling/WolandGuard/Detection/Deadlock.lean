import Mathlib.Data.List.Sublists
import WolandGuard.Detection.ArrivalOrder
import WolandGuard.Detection.Transactions
import WolandGuard.Foundations.Deadlock

/-!
# Ingestions that wait for each other

Concurrent ingestions of one server. Each takes the unique keys of its events in
the order of its batch, then the advisory locks of its correlations in the order
of its turns, and keeps them. The row of an incident is locked under the
advisory lock of its bucket, so nobody waits for it.

Two ingestions that take the same keys in different orders can wait for each
other. Where all take them along one order there is no cycle.
-/

set_option autoImplicit false

namespace WolandGuard.Detection.Concurrent

open Foundations Outbox Incidents

/-- A batch that has passed authentication, with what is drawn for it. -/
structure IngestionRequest where
  draws : Draws
  maxAttempts : Nat
  now : Int
  batch : List NormalizedEventV1

/-- The transaction of a request. -/
def IngestionRequest.code (serverId : Uuid) (request : IngestionRequest) : WorkflowProgram :=
  ingestEvents request.draws request.maxAttempts serverId request.now request.batch

/-- The unique key of an event. -/
def eventKey (serverId : Uuid) (event : NormalizedEventV1) : LockKey :=
  .agentEvent serverId event.eventId

/-- The advisory lock of a turn, if it gets that far. -/
def turnLock (turn : Event × DetectionRuleVersion) : Option LockKey :=
  if canTrigger turn.2.definition turn.1.normalized then
    (correlationOf turn.2.definition turn.1.normalized).map fun correlation =>
      correlationLock (bucketOf turn.2 turn.1 correlation)
  else none

/-- The advisory locks of turns, in their order. -/
def turnLocks (items : List (Event × DetectionRuleVersion)) : List LockKey := items.filterMap turnLock

/-! ## Buckets of incidents -/

/-- A committed incident has a bucket. -/
def HasBucket (db : Database) (incidentId : Uuid) (bucket : Bucket) : Prop :=
  (db.incident? incidentId).map Incident.bucket = some bucket

theorem MatchWrites.hasBucket {db : Database} {writes : Writes} (matched : MatchWrites db writes)
    {incidentId : Uuid} {bucket : Bucket} (has : HasBucket db incidentId bucket) :
    HasBucket (db.write writes) incidentId bucket := by
  unfold HasBucket at has ⊢
  rw [incident?_write]
  cases matched with
  | @absorb incident now trigger found at_id active =>
      simp only [linkWrites]
      split
      next same =>
        have same_id : incident.id = incidentId := same
        rw [← same_id, at_id] at has
        exact has
      · exact has
  | @opened incident historyId now trigger found outbox fresh unwritten status version =>
      simp only [linkWrites]
      split
      next same =>
        have same_id : incident.id = incidentId := same
        rw [← same_id, fresh] at has
        cases has
      · exact has

/-- What ingestions keep: rules, the uniqueness of incident ids, and the
buckets of incidents. -/
structure IngestionLater (state after : WorkflowTables) : Prop where
  rules : after.tables.ruleVersions = state.tables.ruleVersions
  incidentIds : (state.tables.incidents.map Incident.id).Nodup →
    (after.tables.incidents.map Incident.id).Nodup
  buckets : ∀ incidentId bucket, HasBucket state.tables incidentId bucket →
    HasBucket after.tables incidentId bucket

theorem IngestionLater.refl (state : WorkflowTables) : IngestionLater state state :=
  ⟨rfl, id, fun _ _ => id⟩

theorem IngestionLater.trans {first second third : WorkflowTables}
    (earlier : IngestionLater first second) (later : IngestionLater second third) :
    IngestionLater first third where
  rules := later.rules.trans earlier.rules
  incidentIds unique := later.incidentIds (earlier.incidentIds unique)
  buckets _ _ has := later.buckets _ _ (earlier.buckets _ _ has)

theorem nodup_write {db : Database} (writes : Writes)
    (unique : (db.incidents.map Incident.id).Nodup) :
    ((db.write writes).incidents.map Incident.id).Nodup := by
  unfold Database.write
  cases writes.incident with
  | none => exact unique
  | some row => exact nodup_putRow unique

theorem ingestionLater_seenBy {state : WorkflowTables} {own : List Writes}
    (written : IngestionWrites state.tables own) :
    IngestionLater state { state with tables := seenBy own state.tables } := by
  induction written with
  | events inserted => exact ⟨rfl, id, fun _ _ has => has⟩
  | @matched own writes _ matched ih =>
      refine ⟨?_, fun unique => ?_, fun incidentId bucket has => ?_⟩
      · simpa using ih.rules
      · simpa using nodup_write writes (ih.incidentIds unique)
      · simpa using matched.hasBucket (ih.buckets incidentId bucket has)

/-- **A committed ingestion keeps rules and buckets.** -/
theorem IngestionRequest.later {serverId : Uuid} {request : IngestionRequest}
    {state after : WorkflowTables} {answer : Answer}
    (performs : (request.code serverId).Performs state after answer) :
    IngestionLater state after := by
  obtain ⟨_, _, rfl | ⟨own, written, rfl⟩⟩ := ingestEvents_performs performs
  · exact .refl _
  · exact ingestionLater_seenBy written

/-! ## The discipline of ingestions -/

/-- The locks that ingestions wait for: unique keys of events and advisory
locks. -/
def IsEventKey : LockKey → Prop
  | .agentEvent _ _ => True
  | _ => False

def IsAdvisory : LockKey → Prop
  | .advisory _ => True
  | _ => False

theorem isAdvisory_correlationLock (bucket : Bucket) : IsAdvisory (correlationLock bucket) := by
  unfold correlationLock
  trivial

/-- What allows a transaction to hold a row: the row of an incident is under the
lock of its bucket or new, and the row of a history entry is new. -/
def IngestionGuard (request : IngestionRequest) (state : WorkflowTables) (held : List LockKey) :
    LockKey → Prop
  | .incident incidentId =>
      (∃ bucket, correlationLock bucket ∈ held ∧ HasBucket state.tables incidentId bucket) ∨
        (∃ trigger rule, incidentId = request.draws.incidentId trigger rule) ∧
          state.tables.incident? incidentId = none
  | .history historyId => ∃ incidentId, historyId = request.draws.historyId incidentId
  | .advisory _ | .agentEvent _ _ => True

/-- Event keys and advisory locks are taken along a relation. -/
def ingestionDiscipline (related : LockKey → LockKey → Prop) :
    Discipline SameUnder IngestionRequest where
  later := IngestionLater
  refl := .refl
  trans _ _ _ := .trans
  contended key := IsEventKey key ∨ IsAdvisory key
  related := related
  guarded := IngestionGuard
  guarded_stable request state after held key guarded member agree later := by
    cases key with
    | advisory | agentEvent => trivial
    | history => exact guarded
    | incident incidentId =>
        rcases guarded with ⟨bucket, locked, has⟩ | ⟨drawn, fresh⟩
        · exact .inl ⟨bucket, locked, later.buckets incidentId bucket has⟩
        · have same : SameUnder (.incident incidentId) state after := agree _ member
          exact .inr ⟨drawn, same.1 ▸ fresh⟩
  guarded_more request state held key other guarded := by
    cases key with
    | advisory | agentEvent => trivial
    | history => exact guarded
    | incident incidentId =>
        rcases guarded with ⟨bucket, locked, has⟩ | fresh
        · exact .inl ⟨bucket, List.mem_cons_of_mem _ locked, has⟩
        · exact .inr fresh

section Keeps

variable {related : LockKey → LockKey → Prop} {request : IngestionRequest} {maxAttempts : Nat}
variable {own : List Writes} {held done : List LockKey} {state : WorkflowTables}
variable {stored : DetectionRuleVersion} {trigger : Event} {bucket : Bucket}
variable {found : DetectionMatch} {next : List Writes → WorkflowProgram}

/-- The incidents that the transaction has written are locked. -/
def OwnHeld (held : List LockKey) (own : List Writes) : Prop :=
  ∀ writes ∈ own, ∀ incident, writes.incident = some incident → LockKey.incident incident.id ∈ held

theorem OwnHeld.mono {more : List LockKey} (held_own : OwnHeld held own) (subset : held ⊆ more) :
    OwnHeld more own :=
  fun writes member incident row => subset (held_own writes member incident row)

theorem OwnHeld.append {writes : Writes} (held_own : OwnHeld held own)
    (last : ∀ incident, writes.incident = some incident → LockKey.incident incident.id ∈ held) :
    OwnHeld held (own ++ [writes]) := by
  intro one member
  rcases List.mem_append.mp member with earlier | here
  · exact held_own one earlier
  · obtain rfl := List.mem_singleton.mp here
    exact last

/-- The advisory locks held are those of the turns done. -/
structure Holding (done held : List LockKey) : Prop where
  holds : done ⊆ held
  others : ∀ key ∈ held, IsAdvisory key → key ∈ done

theorem Holding.cons (holding : Holding done held) {key : LockKey} (other : ¬ IsAdvisory key) :
    Holding done (key :: held) where
  holds := List.Subset.trans holding.holds (List.subset_cons_self _ _)
  others one member advisory := by
    rcases List.mem_cons.mp member with rfl | old
    · exact absurd advisory other
    · exact holding.others one old advisory

/-- What follows a turn keeps to the discipline. -/
def Goes (related : LockKey → LockKey → Prop) (request : IngestionRequest)
    (done held : List LockKey) (state : WorkflowTables) (next : List Writes → WorkflowProgram) :
    Prop :=
  ∀ own more after, held ⊆ more → Holding done more → IngestionLater state after →
    OwnHeld more own → (ingestionDiscipline related).Keeps request (next own) after more

theorem Goes.mono {more : List LockKey} {after : WorkflowTables}
    (goes : Goes related request done held state next) (subset : held ⊆ more)
    (later : IngestionLater state after) : Goes related request done more after next :=
  fun own further last further_subset holding moved =>
    goes own further last (List.Subset.trans subset further_subset) holding (later.trans moved)

/-- A row that the transaction sees is committed or its own. -/
theorem mem_incidents_seenBy {db : Database} {row : Incident}
    (member : row ∈ (seenBy own db).incidents) :
    row ∈ db.incidents ∨ ∃ writes ∈ own, writes.incident = some row := by
  induction own generalizing db with
  | nil => exact .inl member
  | cons writes rest ih =>
      rcases ih member with before | ⟨later, later_member, same⟩
      · cases written : writes.incident with
        | none =>
            have unchanged : (db.write writes).incidents = db.incidents := by
              simp [Database.write, written]
            exact .inl (unchanged ▸ before)
        | some other =>
            have put : (db.write writes).incidents = putRow Incident.id other db.incidents := by
              simp [Database.write, written]
            rw [put, mem_putRow] at before
            rcases before with rfl | ⟨old, _⟩
            · exact .inr ⟨writes, List.mem_cons_self, written⟩
            · exact .inl old
      · exact .inr ⟨later, List.mem_cons_of_mem _ later_member, same⟩

/-- An incident that the transaction does not see is not committed. -/
theorem incident?_of_seenBy {db : Database} {incidentId : Uuid}
    (unseen : (seenBy own db).incident? incidentId = none) : db.incident? incidentId = none := by
  induction own generalizing db with
  | nil => exact unseen
  | cons writes rest ih =>
      have before := ih unseen
      rw [incident?_write] at before
      split at before
      · split at before
        · cases before
        · exact before
      · exact before

/-- **Opening an incident keeps to the discipline**: its ids are new. -/
theorem openIncident_keeps (holding : Holding done held) (held_own : OwnHeld held own)
    (goes : Goes related request done held state next) :
    (ingestionDiscipline related).Keeps request
      (openIncident request.draws maxAttempts own stored trigger bucket found next) state held := by
  intro after moved
  refine ⟨fun untaken => ⟨.inr ⟨fun contended => ?_, .inr ⟨⟨_, _, rfl⟩, ?_⟩⟩, ?_⟩, fun _ => trivial⟩
  · rcases contended with event | advisory
    · cases event
    · cases advisory
  · exact incident?_of_seenBy (Option.not_isSome_iff_eq_none.mp (by simpa using untaken))
  intro again moved_again
  refine ⟨fun _ => ⟨.inr ⟨fun contended => ?_, ⟨_, rfl⟩⟩, ?_⟩, fun _ => trivial⟩
  · rcases contended with event | advisory
    · cases event
    · cases advisory
  intro last moved_last
  dsimp only
  split
  · trivial
  split
  · trivial
  intro ending moved_ending
  refine goes _ _ _ ?_ ?_ ?_ ?_
  · exact fun key member => by simp [member]
  · exact (holding.cons (by simp [IsAdvisory])).cons (by simp [IsAdvisory])
  · exact ((moved.2.trans moved_again.2).trans moved_last.2).trans moved_ending.2
  · refine (held_own.mono fun key member => by simp [member]).append ?_
    rintro _ ⟨rfl⟩
    exact List.mem_cons_of_mem _ List.mem_cons_self

/-- **Persisting a match keeps to the discipline**: the lock of the bucket
guards the row of its active incident. -/
theorem persistMatch_keeps (holding : Holding done held) (held_own : OwnHeld held own)
    (unique : (state.tables.incidents.map Incident.id).Nodup)
    (locked : correlationLock bucket ∈ held)
    (goes : Goes related request done held state next) :
    (ingestionDiscipline related).Keeps request
      (persistMatch request.draws maxAttempts own stored trigger bucket found next) state held := by
  intro after moved
  have goes_after := goes.mono (List.Subset.refl _) moved.2
  dsimp only
  split
  · exact openIncident_keeps holding held_own goes_after
  next candidate active =>
    obtain ⟨member, same_bucket, _, _⟩ := activeIncident_spec active
    intro again moved_again
    have row_later := moved.2.trans moved_again.2
    refine ⟨?_, ?_⟩
    · rcases mem_incidents_seenBy member with committed | ⟨writes, written, row⟩
      · refine .inr ⟨fun contended => ?_, .inl ⟨bucket, List.mem_cons_of_mem _ locked, ?_⟩⟩
        · rcases contended with event | advisory
          · cases event
          · cases advisory
        · refine moved_again.2.buckets _ _ ?_
          have at_id : after.tables.incident? candidate.id = some candidate :=
            rowOf_of_mem (moved.2.incidentIds unique) committed
          simp [HasBucket, at_id, same_bucket]
      · exact .inl (held_own writes written candidate row)
    · have subset : held ⊆ .incident candidate.id :: held := List.subset_cons_self _ _
      have holding' : Holding done (.incident candidate.id :: held) :=
        holding.cons (by simp [IsAdvisory])
      intro last moved_last
      have goes_last := goes.mono subset (row_later.trans moved_last.2)
      dsimp only
      split
      · exact openIncident_keeps holding' (held_own.mono subset) goes_last
      next incident at_key =>
        split
        · refine goes_last _ _ _ (List.Subset.refl _) holding' (.refl last)
            ((held_own.mono subset).append ?_)
          rintro _ ⟨rfl⟩
          have same_id := (rowOf_mem at_key).2
          simp [absorbed, same_id]
        · exact openIncident_keeps holding' (held_own.mono subset) goes_last

/-- **The turns keep to the discipline**, if their locks ascend. -/
theorem runTurns_keeps {items : List (Event × DetectionRuleVersion)}
    (crossing : ∀ event advisory, IsEventKey event → IsAdvisory advisory → related event advisory)
    (ascends : Ascends related done (turnLocks items)) (holding : Holding done held)
    (held_own : OwnHeld held own) (unique : (state.tables.incidents.map Incident.id).Nodup)
    (ends : ∀ done own more after, Holding done more → IngestionLater state after →
      OwnHeld more own → (ingestionDiscipline related).Keeps request (next own) after more) :
    (ingestionDiscipline related).Keeps request
      (runTurns request.draws maxAttempts items own next) state held := by
  induction items generalizing own held done state with
  | nil => exact ends done own held state holding (.refl state) held_own
  | cons item rest ih =>
      obtain ⟨trigger, stored⟩ := item
      unfold runTurns detectOne
      dsimp only
      split
      next cannot =>
        have no_lock : turnLock (trigger, stored) = none := by
          simp only [Bool.not_eq_true'] at cannot
          simp [turnLock, cannot]
        simp only [turnLocks, List.filterMap_cons_none no_lock] at ascends
        exact ih ascends holding held_own unique ends
      next can =>
        split
        next missing =>
          have no_lock : turnLock (trigger, stored) = none := by simp [turnLock, missing]
          simp only [turnLocks, List.filterMap_cons_none no_lock] at ascends
          exact ih ascends holding held_own unique ends
        next correlation correlates =>
          have lock : turnLock (trigger, stored) =
              some (correlationLock (bucketOf stored trigger correlation)) := by
            simp only [Bool.not_eq_true', Bool.not_eq_false] at can
            simp [turnLock, can, correlates]
          simp only [turnLocks, List.filterMap_cons_some lock] at ascends
          obtain ⟨may, ascends_rest⟩ := ascends
          intro after moved
          have subset : held ⊆ correlationLock (bucketOf stored trigger correlation) :: held :=
            List.subset_cons_self _ _
          have holding' : Holding (correlationLock (bucketOf stored trigger correlation) :: done)
              (correlationLock (bucketOf stored trigger correlation) :: held) := by
            refine ⟨List.cons_subset_cons _ holding.holds, fun key member advisory => ?_⟩
            rcases List.mem_cons.mp member with rfl | old
            · exact List.mem_cons_self
            · exact List.mem_cons_of_mem _ (holding.others key old advisory)
          have goes : Goes related request
              (correlationLock (bucketOf stored trigger correlation) :: done)
              (correlationLock (bucketOf stored trigger correlation) :: held) after
              fun own => runTurns request.draws maxAttempts rest own next := by
            intro own more last _ holding_more later held_own_more
            refine ih ascends_rest holding_more held_own_more ?_ ?_
            · exact later.incidentIds (moved.2.incidentIds unique)
            · exact fun done own more ending holding_last moved_last =>
                ends done own more ending holding_last ((moved.2.trans later).trans moved_last)
          refine ⟨?_, ?_⟩
          · rcases may with already | every
            · exact .inl (holding.holds already)
            · refine .inr ⟨fun _ other member contended => ?_, ?_⟩
              · rcases contended with event | advisory
                · exact crossing other _ event (isAdvisory_correlationLock _)
                · exact every other (holding.others other member advisory)
              · unfold correlationLock
                trivial
          · split
            · trivial
            · intro last moved_last
              have goes_last := goes.mono (List.Subset.refl _) moved_last.2
              have unique_last := moved_last.2.incidentIds (moved.2.incidentIds unique)
              dsimp only
              split
              · exact goes_last own _ last (List.Subset.refl _) holding' (.refl last)
                  (held_own.mono subset)
              · exact persistMatch_keeps holding' (held_own.mono subset) unique_last
                  List.mem_cons_self goes_last

/-- The batch keeps to the discipline, if its keys are related in its order. -/
theorem insertEventBatch_keeps {rows inserted : List Event}
    {next : List Event → WorkflowProgram}
    (ordered : rows.Pairwise fun first second =>
      related (.agentEvent first.serverId first.agentEventId)
        (.agentEvent second.serverId second.agentEventId))
    (before : ∀ key ∈ held, ∀ row ∈ rows,
      related key (.agentEvent row.serverId row.agentEventId))
    (events : ∀ key ∈ held, ¬ IsAdvisory key)
    (continues : ∀ picked more after, picked.Sublist rows → (∀ key ∈ more, ¬ IsAdvisory key) →
      IngestionLater state after →
        (ingestionDiscipline related).Keeps request (next (inserted ++ picked)) after more) :
    (ingestionDiscipline related).Keeps request (insertEventBatch rows inserted next) state held := by
  induction rows generalizing inserted held state with
  | nil => simpa [insertEventBatch] using continues [] held state (.refl []) events (.refl state)
  | cons row rest ih =>
      obtain ⟨first, ordered_rest⟩ := List.pairwise_cons.mp ordered
      unfold insertEventBatch
      intro after moved
      refine ⟨fun untaken => ⟨.inr ⟨fun _ other member _ => ?_, trivial⟩, ?_⟩, fun taken => ?_⟩
      · exact before other member row List.mem_cons_self
      · intro last moved_last
        dsimp only
        split
        · trivial
        · refine ih ordered_rest (fun key member other other_member => ?_) (fun key member => ?_)
            fun picked more ending sublist clear later => ?_
          · rcases List.mem_cons.mp member with rfl | old
            · exact first other other_member
            · exact before key old other (List.mem_cons_of_mem _ other_member)
          · rcases List.mem_cons.mp member with rfl | old
            · simp [IsAdvisory]
            · exact events key old
          · have whole := continues (row :: picked) more ending (sublist.cons_cons row) clear
              ((moved.2.trans moved_last.2).trans later)
            simpa using whole
      · refine ih ordered_rest (fun key member other other_member => ?_) events
          fun picked more ending sublist clear later => ?_
        · exact before key member other (List.mem_cons_of_mem _ other_member)
        · exact continues picked more ending (sublist.cons row) clear (moved.2.trans later)

/-- A request takes its locks along a relation, whichever of its events are
new. -/
structure InOrder (related : LockKey → LockKey → Prop) (serverId : Uuid)
    (rules : List DetectionRuleVersion) (request : IngestionRequest) : Prop where
  events : (request.batch.map (eventKey serverId)).Pairwise related
  correlations : ∀ inserted,
    inserted.Sublist (request.batch.map (eventRow request.draws serverId request.now)) →
      Ascends related [] (turnLocks (turns rules inserted))

/-- **An ingestion keeps to the discipline.** -/
theorem ingestion_keeps {serverId : Uuid}
    (crossing : ∀ event advisory, IsEventKey event → IsAdvisory advisory → related event advisory)
    (unique : (state.tables.incidents.map Incident.id).Nodup)
    (inOrder : InOrder related serverId (activeRules state.tables) request) :
    (ingestionDiscipline related).Keeps request (request.code serverId) state [] := by
  have ordered := List.pairwise_map.mp inOrder.events
  refine insertEventBatch_keeps (List.pairwise_map.mpr ordered) (by simp) (by simp) ?_
  intro picked held after sublist clear later
  rw [List.nil_append]
  split
  · trivial
  · intro last moved
    have since := later.trans moved.2
    have same_rules : activeRules last.tables = activeRules state.tables := by
      simp [activeRules, since.rules]
    dsimp only
    rw [same_rules]
    refine runTurns_keeps crossing (inOrder.correlations picked sublist) ?_ ?_
      (since.incidentIds unique) fun _ _ _ _ _ _ _ => trivial
    · exact ⟨List.nil_subset _, fun key member advisory => absurd advisory (clear key member)⟩
    · intro writes member incident row
      obtain rfl := List.mem_singleton.mp member
      cases row

end Keeps

/-! ## Cycles -/

/-- Two requests draw different ids. -/
def Apart (first second : IngestionRequest) : Prop :=
  (∀ trigger rule other otherRule,
    first.draws.incidentId trigger rule ≠ second.draws.incidentId other otherRule) ∧
  ∀ incidentId otherId, first.draws.historyId incidentId ≠ second.draws.historyId otherId

theorem Apart.symm {first second : IngestionRequest} (apart : Apart first second) :
    Apart second first :=
  ⟨fun trigger rule other otherRule same => apart.1 other otherRule trigger rule same.symm,
    fun incidentId otherId same => apart.2 otherId incidentId same.symm⟩

/-- The installation with ingestions of one server only. -/
abbrev IngestionService := Transactions IngestionRequest WorkflowTables LockKey Answer

/-- A recorded step of it. -/
abbrev IngestionStep := Transactions.Recorded IngestionRequest WorkflowTables LockKey Answer

section Cycles

open Transactions

variable {related : LockKey → LockKey → Prop} {serverId : Uuid} {start : WorkflowTables}
variable {path : List IngestionStep} {finish : IngestionService}

/-- A run of ingestions. -/
abbrev IngestionRun (serverId : Uuid) (start : WorkflowTables) (path : List IngestionStep)
    (finish : IngestionService) : Prop :=
  Run (Step (IngestionRequest.code serverId)) (Transactions.idle start) path finish

theorem orderly_of_ingestions (run : IngestionRun serverId start path finish)
    (unique : (start.tables.incidents.map Incident.id).Nodup)
    (crossing : ∀ event advisory, IsEventKey event → IsAdvisory advisory → related event advisory)
    (inOrder : ∀ request ∈ started path,
      InOrder related serverId (activeRules start.tables) request) :
    Covered SameUnder (IngestionRequest.code serverId) finish ∧
      Orderly (ingestionDiscipline related) finish := by
  have keeps : ∀ taken ∈ path, ∀ request, taken.label = .start request →
      IngestionLater start taken.before.committed →
      (ingestionDiscipline related).Keeps request (request.code serverId) taken.before.committed
        [] := by
    intro taken member request label later
    have is_started : request ∈ started path :=
      List.mem_filterMap.mpr ⟨taken, member, by simp [label]⟩
    have same_rules : activeRules taken.before.committed.tables = activeRules start.tables := by
      simp [activeRules, later.rules]
    refine ingestion_keeps crossing (later.incidentIds unique) ?_
    rw [same_rules]
    exact inOrder request is_started
  obtain ⟨covered, orderly, _⟩ := orderly_of_run (ingestionDiscipline related) run rfl
    sameUnder_equivalence (fun request => ingestEvents_wellLocked _ _ _ _ _)
    (fun _ _ _ _ performs => IngestionRequest.later performs) keeps
  exact ⟨covered, orderly⟩

/-- **Nobody waits for a row that ingestions write under an advisory lock.** -/
theorem contended_of_waits (run : IngestionRun serverId start path finish)
    (apart : (started path).Pairwise Apart)
    (covered : Covered SameUnder (IngestionRequest.code serverId) finish)
    (orderly : Orderly (ingestionDiscipline related) finish) {waiting holder : Nat}
    {first second : Transaction IngestionRequest WorkflowTables LockKey Answer} {key : LockKey}
    (different : waiting ≠ holder) (first_at : first ∈ finish.active[waiting]?)
    (second_at : second ∈ finish.active[holder]?)
    (wanted : key ∈ first.rest.wants finish.committed) (held : key ∈ second.held) :
    IsEventKey key ∨ IsAdvisory key := by
  obtain ⟨_, first_guard, second_guard⟩ := orderly.waits sameUnder_equivalence covered different
    first_at second_at wanted held
  have drawn_apart : Apart first.request second.request := by
    have all := apart.sublist (requests_sublist_started run rfl)
    refine pairwise_at (fun _ _ apart => apart.symm) all ?_ ?_ different
    · rw [List.getElem?_map, Option.mem_def.mp first_at]
      rfl
    · rw [List.getElem?_map, Option.mem_def.mp second_at]
      rfl
  cases key with
  | advisory key => exact .inr trivial
  | agentEvent serverId eventId => exact .inl trivial
  | history historyId =>
      obtain ⟨incidentId, drawn⟩ := first_guard
      obtain ⟨otherId, other_drawn⟩ := second_guard
      exact absurd (drawn.symm.trans other_drawn) (drawn_apart.2 incidentId otherId)
  | incident incidentId =>
      rcases first_guard with ⟨bucket, locked, has⟩ | ⟨⟨trigger, rule, drawn⟩, fresh⟩
      · rcases second_guard with ⟨other, other_locked, other_has⟩ | ⟨_, fresh⟩
        · -- both hold the advisory lock of the bucket
          obtain rfl : bucket = other := Option.some.inj (has.symm.trans other_has)
          have mine : correlationLock bucket ∈ first.held := by
            rcases List.mem_cons.mp locked with same | mine
            · unfold correlationLock at same
              cases same
            · exact mine
          exact absurd other_locked (covered.disjoint_at first_at second_at different mine)
        · simp [HasBucket, fresh] at has
      · rcases second_guard with ⟨other, _, other_has⟩ | ⟨⟨otherTrigger, otherRule, other_drawn⟩, _⟩
        · simp [HasBucket, fresh] at other_has
        · exact absurd (drawn.symm.trans other_drawn) (drawn_apart.1 _ _ _ _)

/-- The batches list their events along one order of their keys. -/
def EventsInOrder {ι : Type} [Preorder ι] (rank : LockKey → ι) (serverId : Uuid)
    (path : List IngestionStep) : Prop :=
  ∀ request ∈ started path,
    (request.batch.map (eventKey serverId)).Pairwise fun first second => rank first < rank second

/-- The turns take the advisory locks along one order, whichever events of a
batch are new. -/
def CorrelationsInOrder {ι : Type} [Preorder ι] (rank : LockKey → ι) (serverId : Uuid)
    (rules : List DetectionRuleVersion) (path : List IngestionStep) : Prop :=
  ∀ request ∈ started path, ∀ inserted,
    inserted.Sublist (request.batch.map (eventRow request.draws serverId request.now)) →
      Ascends (fun first second => rank first < rank second) [] (turnLocks (turns rules inserted))

theorem isAdvisory_of_mem_turnLocks {items : List (Event × DetectionRuleVersion)} {key : LockKey}
    (member : key ∈ turnLocks items) : IsAdvisory key := by
  obtain ⟨turn, _, lock⟩ := List.mem_filterMap.mp member
  unfold turnLock at lock
  split at lock
  · obtain ⟨correlation, _, rfl⟩ := Option.map_eq_some_iff.mp lock
    exact isAdvisory_correlationLock _
  · cases lock

theorem isEventKey_of_mem {serverId : Uuid} {batch : List NormalizedEventV1} {key : LockKey}
    (member : key ∈ batch.map (eventKey serverId)) : IsEventKey key := by
  obtain ⟨event, _, rfl⟩ := List.mem_map.mp member
  trivial

variable {ι : Type} [Preorder ι] {rank : LockKey → ι} {place : Nat} {key : LockKey}

/-- Before an event key come event keys of a smaller rank. -/
def EventRelation (rank : LockKey → ι) (first second : LockKey) : Prop :=
  IsEventKey second → IsEventKey first ∧ rank first < rank second

/-- After an advisory lock come advisory locks of a greater rank. -/
def CorrelationRelation (rank : LockKey → ι) (first second : LockKey) : Prop :=
  IsAdvisory first → IsAdvisory second ∧ rank first < rank second

/-- The locks that a cycle of ingestions waits for are related. -/
theorem related_of_ingestion_cycle (run : IngestionRun serverId start path finish)
    (unique : (start.tables.incidents.map Incident.id).Nodup)
    (apart : (started path).Pairwise Apart)
    (crossing : ∀ event advisory, IsEventKey event → IsAdvisory advisory → related event advisory)
    (transitive : ∀ first second third, related first second → related second third →
      related first third)
    (inOrder : ∀ request ∈ started path,
      InOrder related serverId (activeRules start.tables) request)
    (cycle : OnCycle finish place) (wanted : Wants finish place key) : related key key := by
  obtain ⟨covered, orderly⟩ := orderly_of_ingestions run unique crossing inOrder
  exact related_of_cycle sameUnder_equivalence covered orderly transitive
    (fun _ _ _ _ _ different first_at second_at wanted held =>
      contended_of_waits run apart covered orderly different first_at second_at wanted held)
    cycle wanted

theorem eventRelation_inOrder (ordered : EventsInOrder rank serverId path)
    {rules : List DetectionRuleVersion} :
    ∀ request ∈ started path, InOrder (EventRelation rank) serverId rules request := by
  refine fun request member => ⟨?_, fun inserted _ => ?_⟩
  · refine (ordered request member).imp_of_mem fun first_member _ smaller _ => ?_
    exact ⟨isEventKey_of_mem first_member, smaller⟩
  · refine ascends_of_forall fun key member other is_event => ?_
    have advisory := isAdvisory_of_mem_turnLocks member
    cases key <;> simp_all [IsEventKey, IsAdvisory]

theorem correlationRelation_inOrder {rules : List DetectionRuleVersion}
    (ordered : CorrelationsInOrder rank serverId rules path) :
    ∀ request ∈ started path, InOrder (CorrelationRelation rank) serverId rules request := by
  refine fun request member => ⟨?_, fun inserted sublist => ?_⟩
  · refine List.pairwise_of_forall_mem_list fun first first_member second _ advisory => ?_
    have event := isEventKey_of_mem first_member
    cases first <;> simp_all [IsEventKey, IsAdvisory]
  · refine (ordered request member inserted sublist).imp IsAdvisory (by simp)
      (fun _ => isAdvisory_of_mem_turnLocks) ?_
    exact fun _ _ _ second_advisory smaller _ => ⟨second_advisory, smaller⟩

theorem anyOrder (serverId : Uuid) (rules : List DetectionRuleVersion)
    (request : IngestionRequest) : InOrder (fun _ _ => True) serverId rules request :=
  ⟨List.pairwise_of_forall fun _ _ => trivial,
    fun _ _ => ascends_of_forall fun _ _ _ => trivial⟩

/-- **No cycle of ingestions where they take their locks along one order.** A
transaction waits for the unique key of an event or for an advisory lock, never
for the row of an incident. No cycle goes through a wait for an event key if all
batches list their events along one order, and none through a wait for an
advisory lock if the turns of all batches take these locks along one order. -/
theorem ingestion_free_of_cycles (run : IngestionRun serverId start path finish)
    (unique : (start.tables.incidents.map Incident.id).Nodup)
    (apart : (started path).Pairwise Apart) (rank : LockKey → ι) :
    (∀ waiting holder key, WaitsFor finish waiting holder → Wants finish waiting key →
      IsEventKey key ∨ IsAdvisory key) ∧
    (EventsInOrder rank serverId path → ∀ place key, OnCycle finish place →
      Wants finish place key → ¬ IsEventKey key) ∧
    (CorrelationsInOrder rank serverId (activeRules start.tables) path → ∀ place key,
      OnCycle finish place → Wants finish place key → ¬ IsAdvisory key) ∧
    (EventsInOrder rank serverId path →
      CorrelationsInOrder rank serverId (activeRules start.tables) path →
        ∀ place, ¬ OnCycle finish place) := by
  have waits : ∀ waiting holder key, WaitsFor finish waiting holder → Wants finish waiting key →
      IsEventKey key ∨ IsAdvisory key := by
    intro waiting holder key ⟨different, first, first_at, second, second_at, own, own_wanted, held⟩
      wanted
    obtain rfl := wanted.unique ⟨first, first_at, own_wanted⟩
    obtain ⟨covered, orderly⟩ := orderly_of_ingestions run unique
      (fun _ _ _ _ => trivial) (fun request _ => anyOrder serverId _ request)
    exact contended_of_waits run apart covered orderly different first_at second_at own_wanted held
  have events : EventsInOrder rank serverId path → ∀ place key, OnCycle finish place →
      Wants finish place key → ¬ IsEventKey key := by
    intro ordered place key cycle wanted event
    have cyclic : EventRelation rank key key := by
      refine related_of_ingestion_cycle run unique apart ?_ ?_ (eventRelation_inOrder ordered) cycle
        wanted
      · exact fun first second _ advisory is_event => by
          cases second <;> simp_all [IsEventKey, IsAdvisory]
      · intro first second third earlier later is_event
        obtain ⟨second_event, second_lt⟩ := later is_event
        obtain ⟨first_event, first_lt⟩ := earlier second_event
        exact ⟨first_event, first_lt.trans second_lt⟩
    exact lt_irrefl _ (cyclic event).2
  have correlations : CorrelationsInOrder rank serverId (activeRules start.tables) path →
      ∀ place key, OnCycle finish place → Wants finish place key → ¬ IsAdvisory key := by
    intro ordered place key cycle wanted advisory
    have cyclic : CorrelationRelation rank key key := by
      refine related_of_ingestion_cycle run unique apart ?_ ?_
        (correlationRelation_inOrder ordered) cycle wanted
      · exact fun first second event _ is_advisory => by
          cases first <;> simp_all [IsEventKey, IsAdvisory]
      · intro first second third earlier later is_advisory
        obtain ⟨second_advisory, first_lt⟩ := earlier is_advisory
        obtain ⟨third_advisory, second_lt⟩ := later second_advisory
        exact ⟨third_advisory, first_lt.trans second_lt⟩
    exact lt_irrefl _ (cyclic advisory).2
  refine ⟨waits, events, correlations, fun events_ordered correlations_ordered place cycle => ?_⟩
  obtain ⟨next, first, _⟩ := Relation.TransGen.head'_iff.mp cycle
  obtain ⟨key, wanted⟩ := first.wants
  rcases waits place next key first wanted with event | advisory
  · exact events events_ordered place key cycle wanted event
  · exact correlations correlations_ordered place key cycle wanted advisory

end Cycles

/-! ## Crossing orders -/

/-- Draws whose new ids are one number. -/
def constantDraws (number : Uuid) : Draws where
  eventId := id
  incidentId := fun _ _ => number
  historyId := fun _ => number
  outboxId := fun _ _ => number
  now := fun _ _ => 0

theorem apart_constantDraws {first second : Uuid} (different : first ≠ second)
    (maxAttempts : Nat) (now : Int) (batch other : List NormalizedEventV1) :
    Apart ⟨constantDraws first, maxAttempts, now, batch⟩
      ⟨constantDraws second, maxAttempts, now, other⟩ :=
  ⟨fun _ _ _ _ => different, fun _ _ => different⟩

/-- The failure with number `id` in second `n`, from an address. -/
def failureFrom (id n : Nat) (address : String) : NormalizedEventV1 :=
  { failureAt id with
    occurredAt := seconds n
    collectedAt := seconds n
    payload := .obj [("actor", .str "root"), ("source_ip", .str address)] }

/-- Two batches, one after the other. -/
def twoIngestions (first second : List NormalizedEventV1) :
    List (Command IngestionRequest) → List (Command IngestionRequest) :=
  ([.start ⟨constantDraws 1000, 5, 0, first⟩, .start ⟨constantDraws 2000, 5, 0, second⟩] ++ ·)

theorem started_twoIngestions {serverId : Uuid} {start : WorkflowTables}
    {first second : List NormalizedEventV1} {commands : List (Command IngestionRequest)}
    (steps : commands.filterMap Command.request? = []) {path : List IngestionStep}
    {finish : IngestionService}
    (scheduled : Transactions.schedule (IngestionRequest.code serverId) (Transactions.idle start)
      (twoIngestions first second commands) = some (path, finish)) :
    Transactions.started path =
      [⟨constantDraws 1000, 5, 0, first⟩, ⟨constantDraws 2000, 5, 0, second⟩] := by
  rw [Transactions.started_of_schedule scheduled]
  simp only [twoIngestions, List.filterMap_append, steps, List.append_nil]
  rfl

/-- The rank of an event key is the number of the event. -/
def numberRank : LockKey → Nat
  | .agentEvent _ eventId => eventId.toNat
  | _ => 0

/-- Failures from two addresses, in either order. -/
def oneThenOther : List NormalizedEventV1 :=
  [failureFrom 1 1 "203.0.113.7", failureFrom 2 2 "203.0.113.8"]

def otherThenOne : List NormalizedEventV1 :=
  [failureFrom 3 1 "203.0.113.8", failureFrom 4 2 "203.0.113.7"]

/-- Later failures in the first order. -/
def oneThenOtherAgain : List NormalizedEventV1 :=
  [failureFrom 3 1 "203.0.113.7", failureFrom 4 2 "203.0.113.8"]

/-- The lock that a failure from an address takes. -/
def addressLock (address : String) : Option LockKey :=
  turnLock (eventRow (constantDraws 1000) 1 0 (failureFrom 1 1 address), bruteforceVersion)

/-- The rank of an advisory lock is its key; that of the first address is smaller. -/
def keyRank : LockKey → Int
  | .advisory key => key
  | key => numberRank key

theorem turnLock_failureFrom (draws : Draws) (id n : Nat) (address : String) :
    turnLock (eventRow draws 1 0 (failureFrom id n address), bruteforceVersion) =
      addressLock address := rfl

/-- Whichever of two such failures are new, their locks are taken in order. -/
theorem ascends_oneThenOther (draws : Draws) (id other : Nat) {inserted : List Event}
    (sublist : inserted.Sublist ([failureFrom id 1 "203.0.113.7",
      failureFrom other 2 "203.0.113.8"].map (eventRow draws 1 0))) :
    Ascends (fun first second => keyRank first < keyRank second) []
      (turnLocks (turns [bruteforceVersion] inserted)) := by
  have ordered : ((addressLock "203.0.113.7").any fun first =>
      (addressLock "203.0.113.8").any fun second => decide (keyRank first < keyRank second)) =
        true := by decide +kernel
  obtain ⟨first, at_first, ordered⟩ := (Option.any_eq_true _ _).mp ordered
  obtain ⟨second, at_second, ordered⟩ := (Option.any_eq_true _ _).mp ordered
  have before := of_decide_eq_true ordered
  let earlier := eventRow draws 1 0 (failureFrom id 1 "203.0.113.7")
  let later := eventRow draws 1 0 (failureFrom other 2 "203.0.113.8")
  have first_lock : turnLock (earlier, bruteforceVersion) = some first :=
    (turnLock_failureFrom draws id 1 _).trans at_first
  have second_lock : turnLock (later, bruteforceVersion) = some second :=
    (turnLock_failureFrom draws other 2 _).trans at_second
  have in_time : turns [bruteforceVersion] [earlier, later] =
      [(earlier, bruteforceVersion), (later, bruteforceVersion)] := rfl
  have listed : inserted ∈ [[], [earlier], [later], [earlier, later]] :=
    List.mem_sublists.mpr sublist
  simp only [List.mem_cons, List.not_mem_nil, or_false] at listed
  rcases listed with rfl | rfl | rfl | rfl
  · trivial
  · have locks : turnLocks (turns [bruteforceVersion] [earlier]) = [first] :=
      List.filterMap_cons_some first_lock
    rw [locks]
    exact ⟨.inr (List.forall_mem_nil _), trivial⟩
  · have locks : turnLocks (turns [bruteforceVersion] [later]) = [second] :=
      List.filterMap_cons_some second_lock
    rw [locks]
    exact ⟨.inr (List.forall_mem_nil _), trivial⟩
  · have locks : turnLocks (turns [bruteforceVersion] [earlier, later]) = [first, second] := by
      rw [in_time, turnLocks, List.filterMap_cons_some first_lock,
        List.filterMap_cons_some second_lock, List.filterMap_nil]
    rw [locks]
    exact ⟨.inr (List.forall_mem_nil _), .inr (List.forall_mem_singleton.mpr before), trivial⟩

/-- The first transaction has the lock of the first address, and the second one asks for
it. -/
def sameAddress : List (Command IngestionRequest) :=
  [.step 0, .step 0, .step 0, .step 0, .step 0, .step 0, .step 1, .step 1, .step 1, .step 1, .step 1]

/-- Under a rule for one address, the second of two ingestions with the same addresses in
one order waits for the lock that the first one has, and there is no cycle. -/
theorem ingestion_free_of_cycles_same_address :
    ∃ path finish, IngestionRun 1 (.installed [bruteforceVersion] []) path finish ∧
      Transactions.WaitsFor finish 1 0 ∧
      (∃ key ∈ addressLock "203.0.113.7", Transactions.Wants finish 1 key) ∧
      ∀ place, ¬ Transactions.OnCycle finish place := by
  have scheduled : ((Transactions.schedule (IngestionRequest.code 1)
      (Transactions.idle (.installed [bruteforceVersion] []))
      (twoIngestions oneThenOther oneThenOtherAgain sameAddress)).any fun (_, finish) =>
        decide (Transactions.WaitsFor finish 1 0 ∧
          ∃ key ∈ addressLock "203.0.113.7", Transactions.Wants finish 1 key)) = true := by
    decide +kernel
  obtain ⟨⟨path, finish⟩, reached, decided⟩ := (Option.any_eq_true _ _).mp scheduled
  obtain ⟨waits, wants⟩ := of_decide_eq_true decided
  have run := Transactions.run_of_schedule reached
  have starts := started_twoIngestions rfl reached
  refine ⟨path, finish, run, waits, wants, ?_⟩
  refine (ingestion_free_of_cycles run List.nodup_nil ?_ keyRank).2.2.2 ?_ ?_
  · rw [starts]
    exact List.pairwise_pair.mpr (apart_constantDraws (by decide) _ _ _ _)
  · unfold EventsInOrder
    rw [starts]
    decide +kernel
  · unfold CorrelationsInOrder
    rw [starts]
    exact List.forall_mem_cons.mpr ⟨fun _ => ascends_oneThenOther _ 1 2,
      List.forall_mem_singleton.mpr fun _ => ascends_oneThenOther _ 3 4⟩

/-- Each transaction inserts its first event and asks for that of the other. -/
def crossingEvents : List (Command IngestionRequest) :=
  [.step 0, .step 0, .step 1, .step 1]

/-- Each transaction has evaluated its first event and asks for the lock of its
second one. -/
def crossingCorrelations : List (Command IngestionRequest) :=
  [.step 0, .step 0, .step 0, .step 0, .step 0, .step 0, .step 0,
    .step 1, .step 1, .step 1, .step 1, .step 1, .step 1, .step 1]

theorem cycle_of_waits {system : IngestionService}
    (waits : Transactions.WaitsFor system 0 1 ∧ Transactions.WaitsFor system 1 0) :
    Transactions.OnCycle system 0 :=
  .tail (.single waits.1) waits.2

/-- Two ingestions of one server wait for each other: because their batches list
the same events in different orders; and, with batches in order, because their
events take the locks of two addresses in different orders. -/
theorem crossing_ingestions_wait_for_each_other :
    (∃ path finish, IngestionRun 1 (.installed [] []) path finish ∧
      (Transactions.started path).Pairwise Apart ∧ Transactions.OnCycle finish 0) ∧
    ∃ path finish, IngestionRun 1 (.installed [bruteforceVersion] []) path finish ∧
      (Transactions.started path).Pairwise Apart ∧ EventsInOrder numberRank 1 path ∧
        Transactions.OnCycle finish 0 := by
  refine ⟨?_, ?_⟩
  · have scheduled : ((Transactions.schedule (IngestionRequest.code 1)
        (Transactions.idle (.installed [] []))
        (twoIngestions [failureAt 1, failureAt 2] [failureAt 2, failureAt 1] crossingEvents)).any
          fun (_, finish) =>
            decide (Transactions.WaitsFor finish 0 1 ∧ Transactions.WaitsFor finish 1 0)) = true := by
      decide +kernel
    obtain ⟨⟨path, finish⟩, reached, waits⟩ := (Option.any_eq_true _ _).mp scheduled
    refine ⟨path, finish, Transactions.run_of_schedule reached, ?_,
      cycle_of_waits (of_decide_eq_true waits)⟩
    rw [started_twoIngestions rfl reached]
    exact List.pairwise_pair.mpr (apart_constantDraws (by decide) _ _ _ _)
  · have scheduled : ((Transactions.schedule (IngestionRequest.code 1)
        (Transactions.idle (.installed [bruteforceVersion] []))
        (twoIngestions oneThenOther otherThenOne crossingCorrelations)).any fun (_, finish) =>
          decide (Transactions.WaitsFor finish 0 1 ∧ Transactions.WaitsFor finish 1 0)) = true := by
      decide +kernel
    obtain ⟨⟨path, finish⟩, reached, waits⟩ := (Option.any_eq_true _ _).mp scheduled
    have starts := started_twoIngestions rfl reached
    refine ⟨path, finish, Transactions.run_of_schedule reached, ?_, ?_,
      cycle_of_waits (of_decide_eq_true waits)⟩
    · rw [starts]
      exact List.pairwise_pair.mpr (apart_constantDraws (by decide) _ _ _ _)
    · unfold EventsInOrder
      rw [starts]
      decide

end WolandGuard.Detection.Concurrent
