import WolandGuard.Detection.Engine
import WolandGuard.Detection.Evidence

/-!
# What the engine writes

One lemma for each operation of the engine says everything it can do, and the
properties of detection are read off these lemmas. A match writes one incident
row of its bucket, updated or new, with links from it (`persistMatch_cases`),
and a batch appends rows under fresh ids (`insertEventBatch_spec`).
-/

set_option autoImplicit false

namespace WolandGuard.Detection

open Foundations Outbox

/-! ## Primary keys -/

/-- The primary keys that the tables of detection have. -/
structure PrimaryKeys (db : Database) : Prop where
  eventIds : (db.events.map Event.id).Nodup
  ruleIds : (db.ruleVersions.map DetectionRuleVersion.id).Nodup
  incidentIds : (db.incidents.map Incident.id).Nodup

/-! ## A match -/

theorem activeIncident_spec {db : Database} {stored : DetectionRuleVersion} {bucket : Bucket}
    {incident : Incident} (active : activeIncident db stored bucket = some incident) :
    incident ∈ db.incidents ∧ incident.bucket = bucket ∧
      incident.ruleKey = stored.definition.ruleKey ∧ incident.status.isActive = true := by
  have holds := List.find?_some active
  simp only [Bool.and_eq_true, decide_eq_true_eq, beq_iff_eq] at holds
  exact ⟨List.mem_of_find?_eq_some active, holds.1.1, holds.1.2, holds.2⟩

/-- The writes of a match on an incident: its row with the links that are not
there yet. -/
def linkWrites (db : Database) (incident : Incident) (now : Int) (trigger : Event)
    (found : DetectionMatch) (history : List IncidentHistoryEntry) (outbox : List OutboxMessage) :
    Writes where
  events := []
  incident := some (absorbed incident now trigger found.evidence
    ((db.linksOf incident.id).length + (newLinks db incident.id now found.evidence).length))
  links := newLinks db incident.id now found.evidence
  history := history
  outbox := outbox

/-- **A match adds to the active incident of its bucket or opens a new one**
under a fresh id, with the outbox rows of that moment. -/
theorem persistMatch_cases {draws : Draws} {maxAttempts : Nat} {db : Database}
    {stored : DetectionRuleVersion} {trigger : Event} {bucket : Bucket} {found : DetectionMatch}
    {writes : Writes}
    (persisted : persistMatch draws maxAttempts db stored trigger bucket found = .ok writes) :
    (∃ incident, activeIncident db stored bucket = some incident ∧
      writes = linkWrites db incident (draws.now trigger.id stored.id) trigger found [] []) ∨
    ∃ incident history outbox,
      incident = newIncident (draws.incidentId trigger.id stored.id)
        (draws.now trigger.id stored.id) stored bucket trigger found ∧
      activeIncident db stored bucket = none ∧
      (∀ other ∈ db.incidents, other.id ≠ incident.id ∧
        (other.bucket = bucket → other.status.isActive = false)) ∧
      enqueueIncidentCreatedNotifications (draws.outboxId incident.id)
        (draws.now trigger.id stored.id) maxAttempts db.destinations incident = .ok outbox ∧
      history = [baselineHistory (draws.historyId incident.id) incident] ∧
      writes = linkWrites db incident (draws.now trigger.id stored.id) trigger found history
        outbox := by
  unfold persistMatch at persisted
  dsimp only at persisted
  split at persisted
  next incident active =>
    exact .inl ⟨incident, active, (Except.ok.inj persisted).symm⟩
  next absent =>
    split at persisted
    · cases persisted
    next free =>
      split at persisted
      · cases persisted
      next outbox enqueued =>
        refine .inr ⟨_, _, outbox, rfl, absent, fun other member => ?_, enqueued, rfl,
          (Except.ok.inj persisted).symm⟩
        simp only [List.any_eq_true, Bool.or_eq_true, Bool.and_eq_true, decide_eq_true_eq,
          not_exists, not_and, not_or] at free
        obtain ⟨fresh, inactive⟩ := free other member
        exact ⟨fresh, fun same => by simpa using inactive same⟩

/-! ## A turn -/

/-- A trigger matches a rule over the stored events. -/
structure TurnMatches (events : List Event) (trigger : Event) (stored : DetectionRuleVersion)
    (correlation : Correlation) (found : DetectionMatch) : Prop where
  triggers : canTrigger stored.definition trigger.normalized = true
  correlates : correlationOf stored.definition trigger.normalized = some correlation
  evaluates : evaluateRule stored.definition trigger
    (loadHistory events stored.definition trigger) = some found

/-- **A turn writes a match exactly when there is one.** -/
theorem detectOne_cases {draws : Draws} {maxAttempts : Nat} {db : Database} {trigger : Event}
    {stored : DetectionRuleVersion} {result : Option Writes}
    (detected : detectOne draws maxAttempts db trigger stored = .ok result) :
    (result = none ∧ ∀ correlation found, ¬ TurnMatches db.events trigger stored correlation found) ∨
    ∃ writes correlation found, result = some writes ∧
      TurnMatches db.events trigger stored correlation found ∧
      persistMatch draws maxAttempts db stored trigger (bucketOf stored trigger correlation) found =
        .ok writes := by
  unfold detectOne at detected
  dsimp only at detected
  split at detected
  next cannot =>
    refine .inl ⟨(Except.ok.inj detected).symm, fun _ _ turn => ?_⟩
    simp [turn.triggers] at cannot
  next can =>
    split at detected
    next missing =>
      refine .inl ⟨(Except.ok.inj detected).symm, fun _ _ turn => ?_⟩
      simp [turn.correlates] at missing
    next correlation correlates =>
      split at detected
      · cases detected
      · split at detected
        next nothing =>
          refine .inl ⟨(Except.ok.inj detected).symm, fun _ _ turn => ?_⟩
          simp [turn.evaluates] at nothing
        next found evaluates =>
          cases persisted : persistMatch draws maxAttempts db stored trigger
              (bucketOf stored trigger correlation) found with
          | error failure => simp [persisted, Except.map] at detected
          | ok writes =>
              simp only [persisted, Except.map] at detected
              exact .inr ⟨writes, correlation, found, (Except.ok.inj detected).symm,
                ⟨by simpa using can, correlates, evaluates⟩, persisted⟩

/-- **What every match of a run keeps, the run keeps.** -/
theorem runTurns_invariant {inv : Database → Prop} {draws : Draws} {maxAttempts : Nat}
    {items : List (Event × DetectionRuleVersion)} {db finish : Database}
    (kept : ∀ db trigger stored correlation found writes, (trigger, stored) ∈ items → inv db →
      TurnMatches db.events trigger stored correlation found →
      persistMatch draws maxAttempts db stored trigger (bucketOf stored trigger correlation) found =
        .ok writes → inv (db.write writes))
    (ran : runTurns draws maxAttempts items db = .ok finish) (holds : inv db) : inv finish := by
  induction items generalizing db with
  | nil =>
      obtain rfl := Except.ok.inj ran
      exact holds
  | cons item rest ih =>
      obtain ⟨trigger, stored⟩ := item
      have kept_rest := fun db trigger stored correlation found writes member =>
        kept db trigger stored correlation found writes (List.mem_cons_of_mem _ member)
      unfold runTurns at ran
      split at ran
      · cases ran
      · exact ih kept_rest ran holds
      next writes detected =>
        rcases detectOne_cases detected with
          ⟨nothing, _⟩ | ⟨other, correlation, found, same, turn, persisted⟩
        · cases nothing
        · obtain rfl := Option.some.inj same
          exact ih kept_rest ran
            (kept db trigger stored correlation found writes List.mem_cons_self holds turn persisted)

/-- A match writes no events. -/
theorem persistMatch_events {draws : Draws} {maxAttempts : Nat} {db : Database}
    {stored : DetectionRuleVersion} {trigger : Event} {bucket : Bucket} {found : DetectionMatch}
    {writes : Writes}
    (persisted : persistMatch draws maxAttempts db stored trigger bucket found = .ok writes) :
    writes.events = [] := by
  rcases persistMatch_cases persisted with ⟨_, _, rfl⟩ | ⟨_, _, _, _, _, _, _, _, rfl⟩ <;> rfl

/-- A run over the turns leaves events, rules and destinations alone. -/
theorem runTurns_frame {draws : Draws} {maxAttempts : Nat}
    {items : List (Event × DetectionRuleVersion)} {db finish : Database}
    (ran : runTurns draws maxAttempts items db = .ok finish) :
    finish.events = db.events ∧ finish.ruleVersions = db.ruleVersions ∧
      finish.destinations = db.destinations := by
  have kept : ∀ (now : Database) (trigger : Event) (stored : DetectionRuleVersion)
      (correlation : Correlation) (found : DetectionMatch) (writes : Writes),
      (trigger, stored) ∈ items →
      (now.events = db.events ∧ now.ruleVersions = db.ruleVersions ∧
        now.destinations = db.destinations) →
      TurnMatches now.events trigger stored correlation found →
      persistMatch draws maxAttempts now stored trigger (bucketOf stored trigger correlation) found =
        .ok writes →
      (now.write writes).events = db.events ∧ (now.write writes).ruleVersions = db.ruleVersions ∧
        (now.write writes).destinations = db.destinations := by
    intro now trigger stored correlation found writes _ same _ persisted
    simpa [persistMatch_events persisted] using same
  exact runTurns_invariant kept ran ⟨rfl, rfl, rfl⟩

/-- The turns pair the new events with the active rules. -/
theorem mem_turns {rules : List DetectionRuleVersion} {newEvents : List Event} {trigger : Event}
    {stored : DetectionRuleVersion} :
    (trigger, stored) ∈ turns rules newEvents ↔ trigger ∈ newEvents ∧ stored ∈ rules := by
  simp [turns, (List.perm_insertionSort _ newEvents).mem_iff]

theorem mem_activeRules {db : Database} {stored : DetectionRuleVersion} :
    stored ∈ activeRules db ↔
      stored ∈ db.ruleVersions ∧ stored.isActive = true ∧ stored.enabled = true := by
  simp [activeRules, (List.perm_insertionSort _ _).mem_iff]

/-! ## A batch of events -/

/-- **A batch appends rows of the batch under fresh ids**, and one for each
event that was not there. -/
theorem insertEventBatch_spec {table values inserted : List Event}
    (result : insertEventBatch table values = .ok inserted) :
    inserted.Sublist values ∧
      ((table.map Event.id).Nodup → ((table ++ inserted).map Event.id).Nodup) := by
  induction values generalizing table inserted with
  | nil =>
      obtain rfl := Except.ok.inj result
      simp
  | cons row rest ih =>
      unfold insertEventBatch at result
      split at result
      · obtain ⟨sublist, unique⟩ := ih result
        exact ⟨sublist.cons row, unique⟩
      split at result
      · cases result
      next fresh =>
        cases rest_result : insertEventBatch (table ++ [row]) rest with
        | error failure => simp [rest_result, Except.map] at result
        | ok more =>
            simp only [rest_result, Except.map] at result
            obtain rfl := Except.ok.inj result
            obtain ⟨sublist, unique⟩ := ih rest_result
            refine ⟨sublist.cons_cons row, fun table_unique => ?_⟩
            have extended : ((table ++ [row]).map Event.id).Nodup := by
              rw [List.map_append, List.map_singleton, List.nodup_append]
              refine ⟨table_unique, List.nodup_singleton _, ?_⟩
              intro id id_member other other_member same
              obtain ⟨event, member, rfl⟩ := List.mem_map.mp id_member
              obtain rfl := List.mem_singleton.mp other_member
              exact fresh (List.any_eq_true.mpr ⟨event, member, decide_eq_true same⟩)
            simpa using unique extended

end WolandGuard.Detection
