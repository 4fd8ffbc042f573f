import WolandGuard.Detection.ArrivalOrder
import WolandGuard.Incidents.Aggregate

/-!
# Incidents over whole runs

Any sequence of event batches, operator transitions, rule synchronisations and
changes of the notification destinations, from the empty database. A batch or
a synchronisation that fails is rolled back.
-/

set_option autoImplicit false

namespace WolandGuard.Incidents

open Foundations Detection Outbox

/-- One committed or rolled back transaction. -/
inductive LifecycleOperation where
  | ingest (draws : Draws) (maxAttempts : Nat) (serverId : Uuid) (now : Int)
      (batch : List NormalizedEventV1)
  | transition (historyId : Uuid) (now : Int) (request : TransitionRequest)
  | syncRules (ids : String → Uuid) (activatedAt : Int) (rules : List RuleDefinition)
  | configureDestinations (destinations : List NotificationDestination)

/-- The database after an operation. -/
def LifecycleOperation.commit (db : Database) : LifecycleOperation → Database
  | .ingest draws maxAttempts serverId now batch =>
      (ingestEvents draws maxAttempts serverId now db batch).toOption.getD db
  | .transition historyId now request => (transitionIncident historyId now db request).1
  | .syncRules ids activatedAt rules =>
      (Detection.syncRules ids activatedAt db rules).toOption.getD db
  | .configureDestinations destinations =>
      -- the primary key of the table
      if (destinations.map NotificationDestination.id).Nodup then
        { db with destinations := destinations }
      else db

/-- One step of the installation. -/
def LifecycleOperation.step (db : Database) (operation : LifecycleOperation) (after : Database) : Prop :=
  after = operation.commit db

theorem AggregateInvariant.empty : AggregateInvariant .empty where
  eventIds := List.nodup_nil
  incidentIds := List.nodup_nil
  linkIncident := by simp [Database.empty]
  linkEvent := by simp [Database.empty]
  outboxIncident := by simp [Database.empty]
  counters := by simp [Database.empty]
  oneActive := by simp [Database.empty]
  destinationIds := List.nodup_nil

/-- **Every operation is sound.** -/
theorem LifecycleOperation.sound {db after : Database} {operation : LifecycleOperation}
    (inv : AggregateInvariant db) (taken : LifecycleOperation.step db operation after) :
    Sound db after := by
  obtain rfl := taken
  cases operation with
  | ingest draws maxAttempts serverId now batch =>
      exact .ingest inv draws maxAttempts serverId now batch
  | transition historyId now request => exact .transition inv historyId now request
  | syncRules ids activatedAt rules =>
      cases synced : Detection.syncRules ids activatedAt db rules with
      | error failure =>
          simp only [LifecycleOperation.commit, synced]
          exact .refl inv
      | ok after =>
          obtain ⟨versions, rfl⟩ := syncRules_frame synced
          simp only [LifecycleOperation.commit, synced]
          exact .of_eq inv rfl rfl rfl rfl inv.destinationIds
  | configureDestinations destinations =>
      by_cases unique : (destinations.map NotificationDestination.id).Nodup
      · simp only [LifecycleOperation.commit, unique, if_true]
        exact .of_eq inv rfl rfl rfl rfl unique
      · simp only [LifecycleOperation.commit, unique, if_false]
        exact .refl inv

section Runs

variable {start finish : Database} {path : List (Taken Database LifecycleOperation)}

theorem invariant_of_run (run : Run LifecycleOperation.step start path finish)
    (inv : AggregateInvariant start) : AggregateInvariant finish :=
  run.invariant (fun _ _ _ holds taken => (LifecycleOperation.sound holds taken).invariant) inv

/-- Incidents only evolve along a run. -/
theorem evolves_of_run (run : Run LifecycleOperation.step start path finish)
    (inv : AggregateInvariant start) : Evolves start finish := by
  have refl : ∀ db, Evolves db db := Evolves.refl
  refine run.relates refl (fun _ _ _ => Evolves.trans)
    (fun _ _ _ holds taken => (LifecycleOperation.sound holds taken).invariant) (fun _ _ _ holds taken => ?_)
    inv
  exact (LifecycleOperation.sound holds taken).evolves

end Runs

/-- The destinations that receive an incident of a severity, as a set of
ids. -/
theorem mem_eligibleDestinations {destinations : List NotificationDestination}
    {severity : Severity} {destinationId : Uuid} :
    destinationId ∈ (eligibleDestinations destinations severity).map NotificationDestination.id ↔
      ∃ destination ∈ destinations, destination.id = destinationId ∧ destination.enabled = true ∧
        severityRank destination.minimumSeverity ≤ severityRank severity := by
  simp only [eligibleDestinations, List.mem_map, List.mem_filter, List.mem_insertionSort,
    decide_eq_true_eq]
  constructor
  · rintro ⟨destination, ⟨⟨member, enabled⟩, rank⟩, same⟩
    exact ⟨destination, member, same, enabled, rank⟩
  · rintro ⟨destination, member, same, enabled, rank⟩
    exact ⟨destination, ⟨⟨member, enabled⟩, rank⟩, same⟩

theorem nodup_eligibleDestinations {destinations : List NotificationDestination}
    (unique : (destinations.map NotificationDestination.id).Nodup) (severity : Severity) :
    ((eligibleDestinations destinations severity).map NotificationDestination.id).Nodup := by
  have chosen : ((destinations.filter (·.enabled)).map NotificationDestination.id).Nodup :=
    unique.sublist (List.filter_sublist.map _)
  have sorted : (((destinations.filter (·.enabled)).insertionSort
      (destinationOrder · ·)).map NotificationDestination.id).Nodup :=
    (((List.perm_insertionSort _ _).map _).nodup_iff).mpr chosen
  exact sorted.sublist (List.filter_sublist.map _)

/-- **The incident aggregate over whole runs.** In every reachable state the
counters of every incident are those of its links and a bucket has at most one
active incident. From the step that creates an incident on, its snapshot and
title stay, its outbox rows are one for each destination that was eligible
then, and a terminal one keeps its row and its links. -/
theorem incident_aggregate {path : List (Taken Database LifecycleOperation)} {finish : Database}
    (run : Run LifecycleOperation.step .empty path finish) :
    (∀ incident ∈ finish.incidents,
      incident.eventCount = (finish.linksOf incident.id).length ∧ 1 ≤ incident.eventCount ∧
        IsLeast (seenTimes finish incident.id) incident.firstSeenAt ∧
        IsGreatest (seenTimes finish incident.id) incident.lastSeenAt) ∧
    (∀ incident ∈ finish.incidents, ∀ other ∈ finish.incidents, incident.bucket = other.bucket →
      incident.status.isActive = true → other.status.isActive = true → incident = other) ∧
    ∀ taken ∈ path, ∀ incident ∈ taken.after.incidents,
      ∃ later ∈ finish.incidents, later.id = incident.id ∧
        later.ruleSnapshot = incident.ruleSnapshot ∧ later.title = incident.title ∧
        (incident.status.isActive = false →
          later = incident ∧ finish.linksOf incident.id = taken.after.linksOf incident.id) ∧
        ((∀ old ∈ taken.before.incidents, old.id ≠ incident.id) →
          ((finish.outboxOf incident.id).map OutboxMessage.destinationId).Nodup ∧
          ∀ destinationId,
            destinationId ∈ (finish.outboxOf incident.id).map OutboxMessage.destinationId ↔
              ∃ destination ∈ taken.before.destinations, destination.id = destinationId ∧
                destination.enabled = true ∧
                severityRank destination.minimumSeverity ≤ severityRank incident.severity) := by
  have inv := invariant_of_run run .empty
  refine ⟨fun incident member => ?_, inv.oneActive, fun taken taken_member incident member => ?_⟩
  · have counters := inv.counters incident member
    exact ⟨counters.count, counters.positive, counters.first, counters.last⟩
  · obtain ⟨earlier, rest, rfl⟩ := List.append_of_mem taken_member
    obtain ⟨first, step, remaining⟩ := run.around
    have inv_before := invariant_of_run first .empty
    have sound := LifecycleOperation.sound inv_before step
    obtain ⟨later, later_member, kept⟩ := evolves_of_run remaining sound.invariant incident member
    refine ⟨later, later_member, kept.id, kept.ruleSnapshot, kept.title, kept.terminal,
      fun fresh => ?_⟩
    rw [kept.outbox, sound.notified incident member fresh]
    exact ⟨nodup_eligibleDestinations inv_before.destinationIds _,
      fun _ => mem_eligibleDestinations⟩

/-! ## A run -/

/-- A destination for everything, one that is switched off, and one for
critical incidents only. -/
def sampleDestinations : List NotificationDestination :=
  [⟨1, "telegram", true, .low⟩, ⟨2, "telegram", false, .low⟩, ⟨3, "telegram", true, .critical⟩]

/-- An installation that is configured and then sees a brute force. -/
def bruteforceOperations : List LifecycleOperation :=
  [.configureDestinations sampleDestinations, .syncRules (fun _ => 100) 0 [sshBruteforceByIp],
    .ingest sampleDraws 5 1 0 sevenFailures, .ingest sampleDraws 5 1 0 [failureAt 8]]

/-- The incident of the brute force counts its eight failures. -/
theorem incident_aggregate_bruteforce :
    ∃ incident ∈ (bruteforceOperations.foldl LifecycleOperation.commit .empty).incidents,
      incident.eventCount = 8 ∧ incident.eventCount =
        ((bruteforceOperations.foldl LifecycleOperation.commit .empty).linksOf incident.id).length := by
  have counted : ∃ incident ∈ (bruteforceOperations.foldl LifecycleOperation.commit .empty).incidents,
      incident.eventCount = 8 := by decide +kernel
  obtain ⟨incident, member, count⟩ := counted
  have run := Run.of_trace LifecycleOperation.commit .empty bruteforceOperations
  exact ⟨incident, member, count, ((incident_aggregate run).1 incident member).1⟩

end WolandGuard.Incidents
