import WolandGuard.Detection.Qualifying
import WolandGuard.Detection.SyncVersions
import WolandGuard.Foundations.Outcomes
import WolandGuard.Incidents.Lifecycle

/-!
# Incidents are justified by their evidence

The evidence linked to an incident qualifies for the rule that the incident has
a snapshot of, and every event of it was linked by a trigger of the incident's
server and correlation. A match adds evidence that has this, and neither more
events, nor a transition, nor a synchronisation takes it away.
-/

set_option autoImplicit false

namespace WolandGuard.Incidents

open Foundations Detection Outbox

/-! ## Justified incidents -/

/-- The events linked to an incident. -/
def linkedEvents (db : Database) (incidentId : Uuid) : List Event :=
  db.events.filter fun event => (db.linksOf incidentId).any (·.eventId = event.id)

theorem mem_linkedEvents {db : Database} {incidentId : Uuid} {event : Event} :
    event ∈ linkedEvents db incidentId ↔
      event ∈ db.events ∧ ∃ link ∈ db.linksOf incidentId, link.eventId = event.id := by
  simp [linkedEvents]

/-- What identifies a rule version, and its rule. -/
def ruleOf (version : DetectionRuleVersion) : Uuid × RuleDefinition :=
  (version.id, version.definition)

/-- A trigger of the server and the correlation of an incident. -/
structure Triggers (incident : Incident) (trigger : Event) : Prop where
  server : trigger.serverId = incident.serverId
  correlation : ∃ correlation,
    correlationOf incident.ruleSnapshot trigger.normalized = some correlation ∧
      correlationHash correlation = incident.correlationHash

/-- An incident is justified by its evidence. -/
structure JustifiedBy (stored : List Event) (rules : List DetectionRuleVersion)
    (evidence : List Event) (incident : Incident) : Prop where
  rule : (incident.ruleVersionId, incident.ruleSnapshot) ∈ rules.map ruleOf
  opened : ∃ trigger ∈ stored,
    correlationOf incident.ruleSnapshot trigger.normalized = some incident.correlation ∧
      correlationHash incident.correlation = incident.correlationHash
  belongs : ∀ event ∈ evidence, ∃ trigger ∈ stored,
    Triggers incident trigger ∧ Supports incident.ruleSnapshot trigger event
  qualifies : Qualifies incident.ruleSnapshot evidence stored

theorem JustifiedBy.mono {stored later evidence : List Event}
    {rules more : List DetectionRuleVersion} {incident : Incident}
    (justified : JustifiedBy stored rules evidence incident) (grown : stored <+: later)
    (kept : rules.map ruleOf ⊆ more.map ruleOf) : JustifiedBy later more evidence incident where
  rule := kept justified.rule
  opened := by
    obtain ⟨trigger, member, holds⟩ := justified.opened
    exact ⟨trigger, grown.subset member, holds⟩
  belongs := by
    intro event member
    obtain ⟨trigger, there, holds⟩ := justified.belongs event member
    exact ⟨trigger, grown.subset there, holds⟩
  qualifies := justified.qualifies.mono (List.Subset.refl _) grown

/-- The columns that justification reads. -/
structure SameOrigin (incident later : Incident) : Prop where
  serverId : later.serverId = incident.serverId
  ruleVersionId : later.ruleVersionId = incident.ruleVersionId
  ruleSnapshot : later.ruleSnapshot = incident.ruleSnapshot
  correlation : later.correlation = incident.correlation
  correlationHash : later.correlationHash = incident.correlationHash

theorem JustifiedBy.of_sameOrigin {stored evidence : List Event}
    {rules : List DetectionRuleVersion} {incident later : Incident}
    (justified : JustifiedBy stored rules evidence incident) (same : SameOrigin incident later) :
    JustifiedBy stored rules evidence later where
  rule := by
    rw [same.ruleVersionId, same.ruleSnapshot]
    exact justified.rule
  opened := by
    rw [same.ruleSnapshot, same.correlation, same.correlationHash]
    exact justified.opened
  belongs := by
    intro event member
    obtain ⟨trigger, there, ⟨server, correlation⟩, supports⟩ := justified.belongs event member
    refine ⟨trigger, there, ⟨?_, ?_⟩, ?_⟩
    · rw [same.serverId]
      exact server
    · rw [same.ruleSnapshot, same.correlationHash]
      exact correlation
    · rw [same.ruleSnapshot]
      exact supports
  qualifies := by
    rw [same.ruleSnapshot]
    exact justified.qualifies

/-- **More evidence of the same kind.** -/
theorem JustifiedBy.linked {stored evidence more : List Event}
    {rules : List DetectionRuleVersion} {incident : Incident}
    (justified : JustifiedBy stored rules evidence incident) (subset : evidence ⊆ more)
    (belongs : ∀ event ∈ more, event ∈ evidence ∨ ∃ trigger ∈ stored,
      Triggers incident trigger ∧ Supports incident.ruleSnapshot trigger event) :
    JustifiedBy stored rules more incident where
  rule := justified.rule
  opened := justified.opened
  belongs := by
    intro event member
    rcases belongs event member with old | new
    · exact justified.belongs event old
    · exact new
  qualifies := justified.qualifies.mono subset List.prefix_rfl

/-- **Every incident is justified.** -/
structure JustifiedInvariant (db : Database) : Prop where
  aggregate : AggregateInvariant db
  ruleIds : (db.ruleVersions.map DetectionRuleVersion.id).Nodup
  justified : ∀ incident ∈ db.incidents,
    JustifiedBy db.events db.ruleVersions (linkedEvents db incident.id) incident

/-! ## Matches -/

section Match

variable {db : Database} {trigger : Event} {stored : DetectionRuleVersion}
variable {correlation : Correlation} {found : DetectionMatch} {incident : Incident} {now : Int}
variable {history : List IncidentHistoryEntry} {outbox : List OutboxMessage}

/-- The correlation of a match is the trigger's. -/
theorem evaluateRule_correlation {rule : RuleDefinition} {events : List Event}
    (matched : evaluateRule rule trigger events = some found)
    (correlates : correlationOf rule trigger.normalized = some correlation) :
    found.correlation = correlation := by
  unfold evaluateRule at matched
  split at matched
  · cases matched
  simp only [correlates] at matched
  unfold evaluateCondition at matched
  split at matched
  · cases matched
    rfl
  · grind [evaluateThreshold]
  · grind [evaluateDistinct]
  · unfold evaluateSequence at matched
    dsimp only at matched
    split at matched
    · cases matched
    split at matched
    · cases matched
    obtain ⟨_, _, rfl⟩ := Option.map_eq_some_iff.mp matched
    rfl
  · grind [evaluateFirstSeen]

/-- The events linked to the incident of a match afterwards. -/
theorem mem_linkedEvents_match (unique : (db.events.map Event.id).Nodup)
    (known : ∀ event ∈ found.evidence, event ∈ db.events) {event : Event} :
    event ∈ linkedEvents (db.write (linkWrites db incident now trigger found history outbox))
        incident.id ↔
      event ∈ linkedEvents db incident.id ∨ event ∈ found.evidence := by
  simp only [mem_linkedEvents, linksOf_linkWrites, events_linkWrites]
  constructor
  · rintro ⟨member, link, there, same⟩
    rcases List.mem_append.mp there with old | new
    · exact .inl ⟨member, link, old, same⟩
    · obtain ⟨source, in_evidence, _, rfl⟩ := mem_newLinks.mp new
      obtain rfl :=
        List.inj_on_of_nodup_map unique (known source in_evidence) member same
      exact .inr in_evidence
  · rintro (⟨member, link, old, same⟩ | in_evidence)
    · exact ⟨member, link, List.mem_append_left _ old, same⟩
    · refine ⟨known event in_evidence, ?_⟩
      by_cases linked : ∃ link ∈ db.linksOf incident.id, link.eventId = event.id
      · obtain ⟨link, old, same⟩ := linked
        exact ⟨link, List.mem_append_left _ old, same⟩
      · refine ⟨_, List.mem_append_right _ (mem_newLinks.mpr ⟨event, in_evidence, ?_, rfl⟩), rfl⟩
        intro old there same
        exact linked ⟨old, there, same⟩

/-- A trigger with the bucket of an incident is one of its triggers. -/
theorem triggers_of_bucket (correlates :
      correlationOf stored.definition trigger.normalized = some correlation)
    (bucket : incident.bucket = bucketOf stored trigger correlation)
    (snapshot : incident.ruleSnapshot = stored.definition) : Triggers incident trigger := by
  have server : incident.serverId = trigger.serverId := congrArg Bucket.serverId bucket
  have hash : incident.correlationHash = correlationHash correlation :=
    congrArg Bucket.correlationHash bucket
  refine ⟨server.symm, correlation, ?_, hash.symm⟩
  rw [snapshot]
  exact correlates

/-- The snapshot of an incident is the definition of its rule version. -/
theorem snapshot_of_version {rules : List DetectionRuleVersion}
    (ruleIds : (rules.map DetectionRuleVersion.id).Nodup) (member : stored ∈ rules)
    (rule : (incident.ruleVersionId, incident.ruleSnapshot) ∈ rules.map ruleOf)
    (version : incident.ruleVersionId = stored.id) :
    incident.ruleSnapshot = stored.definition := by
  obtain ⟨other, other_member, same⟩ := List.mem_map.mp rule
  obtain ⟨same_id, same_definition⟩ := Prod.mk.inj same
  have same_row : other = stored :=
    List.inj_on_of_nodup_map ruleIds other_member member (same_id.trans version)
  rw [← same_definition, same_row]

/-- **A match keeps every incident justified.** -/
theorem JustifiedInvariant.matched {draws : Draws} {maxAttempts : Nat} {writes : Writes}
    (inv : JustifiedInvariant db) (trigger_stored : trigger ∈ db.events)
    (version : stored ∈ db.ruleVersions)
    (turn : TurnMatches db.events trigger stored correlation found)
    (persisted : persistMatch draws maxAttempts db stored trigger
      (bucketOf stored trigger correlation) found = .ok writes) :
    JustifiedInvariant (db.write writes) := by
  have unique := inv.aggregate.eventIds
  have evidence := evaluateRule_evidence turn.evaluates
  have known : ∀ event ∈ found.evidence, event ∈ db.events := by
    intro event in_evidence
    rcases evidence.known event in_evidence with rfl | in_history
    · exact trigger_stored
    · exact (loadHistory_subset in_history).elim (fun same => same ▸ trigger_stored) id
  obtain ⟨qualifies, supports⟩ := evaluateRule_justifies trigger_stored unique turn.evaluates
  have aggregate : AggregateInvariant (db.write writes) := by
    obtain ⟨base, now, history, outbox, rfl, matched⟩ := persistMatch_base persisted
    exact inv.aggregate.write_match matched evidence.nonempty known
  -- the incident that the match is about, as it was or as it is opened
  have base : ∃ incident now history outbox,
      writes = linkWrites db incident now trigger found history outbox ∧
      JustifiedBy db.events db.ruleVersions
        (linkedEvents (db.write writes) incident.id) incident := by
    rcases persistMatch_cases persisted with
      ⟨incident, active, rfl⟩ | ⟨incident, history, outbox, opened, _, fresh, _, _, rfl⟩
    · obtain ⟨member, bucket, _⟩ := activeIncident_spec active
      have justified := inv.justified incident member
      have snapshot := snapshot_of_version inv.ruleIds version justified.rule
        (congrArg Bucket.ruleVersionId bucket)
      refine ⟨incident, _, _, _, rfl, justified.linked ?_ ?_⟩
      · intro event old
        exact (mem_linkedEvents_match unique known).mpr (.inl old)
      · intro event there
        rcases (mem_linkedEvents_match unique known).mp there with old | in_evidence
        · exact .inl old
        · refine .inr ⟨trigger, trigger_stored, ?_, ?_⟩
          · exact triggers_of_bucket turn.correlates bucket snapshot
          · rw [snapshot]
            exact supports event in_evidence
    · refine ⟨incident, _, history, outbox, rfl, ?_⟩
      have unlinked : linkedEvents db incident.id = [] := by
        refine List.filter_eq_nil_iff.mpr ?_
        intro event _ linked
        obtain ⟨link, there, _⟩ := List.any_eq_true.mp linked
        obtain ⟨in_table, own⟩ := mem_linksOf.mp there
        obtain ⟨owner, owner_member, same⟩ := inv.aggregate.linkIncident link in_table
        exact (fresh owner owner_member).1 (same.trans own)
      have snapshot : incident.ruleSnapshot = stored.definition := by rw [opened]; rfl
      have bucket : incident.bucket = bucketOf stored trigger correlation := by rw [opened]; rfl
      have triggers := triggers_of_bucket turn.correlates bucket snapshot
      refine ⟨?_, ⟨trigger, trigger_stored, ?_, ?_⟩, ?_, ?_⟩
      · refine List.mem_map.mpr ⟨stored, version, ?_⟩
        rw [opened]
        rfl
      · rw [snapshot, turn.correlates, opened]
        exact congrArg some (evaluateRule_correlation turn.evaluates turn.correlates).symm
      · rw [opened]
        exact congrArg correlationHash (evaluateRule_correlation turn.evaluates turn.correlates)
      · intro event there
        rcases (mem_linkedEvents_match unique known).mp there with old | in_evidence
        · rw [unlinked] at old
          cases old
        · refine ⟨trigger, trigger_stored, triggers, ?_⟩
          rw [snapshot]
          exact supports event in_evidence
      · rw [snapshot]
        refine qualifies.mono ?_ List.prefix_rfl
        exact fun event in_evidence => (mem_linkedEvents_match unique known).mpr (.inr in_evidence)
  obtain ⟨incident, now, history, outbox, rfl, justified⟩ := base
  refine ⟨aggregate, inv.ruleIds, ?_⟩
  intro other member
  rw [events_linkWrites]
  rcases mem_incidents_match.mp member with rfl | ⟨old, different⟩
  · exact justified.of_sameOrigin ⟨rfl, rfl, rfl, rfl, rfl⟩
  · have same : linkedEvents (db.write (linkWrites db incident now trigger found history outbox))
        other.id = linkedEvents db other.id := by
      rw [linkedEvents, linksOf_linkWrites_of_ne different, events_linkWrites]
      rfl
    rw [same]
    exact inv.justified other old

end Match

/-! ## The operations -/

section Operations

variable {db after : Database}

/-- An operation that leaves events and links alone, keeps the rules and changes
no column that justification reads. -/
theorem JustifiedInvariant.of_frame (inv : JustifiedInvariant db)
    (aggregate : AggregateInvariant after) (events : after.events = db.events)
    (links : after.incidentEvents = db.incidentEvents)
    (ruleIds : (after.ruleVersions.map DetectionRuleVersion.id).Nodup)
    (rules : db.ruleVersions.map ruleOf ⊆ after.ruleVersions.map ruleOf)
    (incidents : ∀ later ∈ after.incidents, ∃ incident ∈ db.incidents,
      later.id = incident.id ∧ SameOrigin incident later) : JustifiedInvariant after := by
  refine ⟨aggregate, ruleIds, ?_⟩
  intro later member
  obtain ⟨incident, old, same_id, same⟩ := incidents later member
  have evidence : linkedEvents after later.id = linkedEvents db incident.id := by
    rw [linkedEvents, linkedEvents, Database.linksOf, Database.linksOf, events, links, same_id]
  rw [evidence, events]
  exact ((inv.justified incident old).mono List.prefix_rfl rules).of_sameOrigin same

theorem SameOrigin.refl (incident : Incident) : SameOrigin incident incident :=
  ⟨rfl, rfl, rfl, rfl, rfl⟩

/-- The insertion of a batch. -/
theorem JustifiedInvariant.insert (inv : JustifiedInvariant db) {inserted : List Event}
    (unique : ((db.events ++ inserted).map Event.id).Nodup) :
    JustifiedInvariant (db.write (.ofEvents inserted)) := by
  refine ⟨(Sound.insert inv.aggregate unique).invariant, inv.ruleIds, ?_⟩
  intro incident member
  have evidence : linkedEvents (db.write (.ofEvents inserted)) incident.id =
      linkedEvents db incident.id := by
    have links : (db.write (.ofEvents inserted)).linksOf incident.id = db.linksOf incident.id :=
      congrArg (List.filter _) (List.append_nil _)
    -- the new events have fresh ids
    have unlinked : inserted.filter (fun event =>
        (db.linksOf incident.id).any (·.eventId = event.id)) = [] := by
      refine List.filter_eq_nil_iff.mpr ?_
      intro event new linked
      obtain ⟨link, there, same⟩ := List.any_eq_true.mp linked
      obtain ⟨old, old_member, old_same⟩ :=
        inv.aggregate.linkEvent link (mem_linksOf.mp there).1
      rw [List.map_append, List.nodup_append] at unique
      exact unique.2.2 _ (List.mem_map_of_mem old_member) _ (List.mem_map_of_mem new)
        (old_same.trans (of_decide_eq_true same))
    rw [linkedEvents, links, Database.write_events]
    change (db.events ++ inserted).filter _ = _
    rw [List.filter_append, unlinked, List.append_nil]
    rfl
  rw [evidence]
  exact (inv.justified incident member).mono (List.prefix_append _ _) (List.Subset.refl _)

/-- **A run of the engine keeps every incident justified.** -/
theorem JustifiedInvariant.runTurns {draws : Draws} {maxAttempts : Nat}
    {items : List (Event × DetectionRuleVersion)} (inv : JustifiedInvariant db)
    (stored : ∀ item ∈ items, item.1 ∈ db.events ∧ item.2 ∈ db.ruleVersions)
    (ran : runTurns draws maxAttempts items db = .ok after) : JustifiedInvariant after := by
  have kept : ∀ (now : Database) (trigger : Event) (version : DetectionRuleVersion)
      (correlation : Correlation) (found : DetectionMatch) (writes : Writes),
      (trigger, version) ∈ items →
      (JustifiedInvariant now ∧ now.events = db.events ∧ now.ruleVersions = db.ruleVersions) →
      TurnMatches now.events trigger version correlation found →
      persistMatch draws maxAttempts now version trigger (bucketOf version trigger correlation)
        found = .ok writes →
      JustifiedInvariant (now.write writes) ∧ (now.write writes).events = db.events ∧
        (now.write writes).ruleVersions = db.ruleVersions := by
    rintro now trigger version correlation found writes member ⟨here, events, rules⟩ turn persisted
    obtain ⟨in_events, in_rules⟩ := stored _ member
    refine ⟨here.matched (events ▸ in_events) (rules ▸ in_rules) turn persisted, ?_, rules⟩
    rw [Database.write_events, persistMatch_events persisted, List.append_nil, events]
  exact (runTurns_invariant kept ran ⟨inv, rfl, rfl⟩).1

/-- An ingestion keeps every incident justified, whether it commits or not. -/
theorem JustifiedInvariant.ingest (inv : JustifiedInvariant db) (draws : Draws)
    (maxAttempts : Nat) (serverId : Uuid) (now : Int) (batch : List NormalizedEventV1) :
    JustifiedInvariant ((ingestEvents draws maxAttempts serverId now db batch).toOption.getD db) := by
  cases result : ingestEvents draws maxAttempts serverId now db batch with
  | error failure => exact inv
  | ok finish =>
      unfold ingestEvents at result
      split at result
      · cases result
      next inserted batch_inserted =>
        have unique := (insertEventBatch_spec batch_inserted).2 inv.aggregate.eventIds
        refine (inv.insert unique).runTurns ?_ result
        rintro ⟨trigger, version⟩ member
        obtain ⟨new, active⟩ := mem_turns.mp member
        exact ⟨List.mem_append_right _ new, (mem_activeRules.mp active).1⟩

/-- A transition keeps every incident justified. -/
theorem JustifiedInvariant.transition (inv : JustifiedInvariant db) (historyId : Uuid) (now : Int)
    (request : TransitionRequest) :
    JustifiedInvariant (transitionIncident historyId now db request).1 := by
  have sound := Sound.transition inv.aggregate historyId now request
  rcases transitionIncident_cases historyId now db request with
    ⟨records, after, _⟩ | ⟨incident, records, applies, after⟩
  · rw [after] at sound ⊢
    exact inv.of_frame sound.invariant rfl rfl inv.ruleIds (List.Subset.refl _)
      fun later member => ⟨later, member, rfl, .refl later⟩
  · rw [after] at sound ⊢
    refine inv.of_frame sound.invariant events_transition links_transition inv.ruleIds
      (List.Subset.refl _) ?_
    intro later member
    have written : later ∈
        (db.write (transitionWrites historyId now request incident)).incidents := member
    rcases mem_incidents_transition.mp written with rfl | ⟨old, _⟩
    · exact ⟨incident, (rowOf_mem applies.found).1, rfl, rfl, rfl, rfl, rfl, rfl⟩
    · exact ⟨later, old, rfl, .refl later⟩

end Operations

/-! ## Synchronisations -/

section Synchronisation

variable {ids : String → Uuid} {now : Int} {rules : List RuleDefinition}
variable {table after : List DetectionRuleVersion} {targets : List Uuid}

/-- Missing versions are appended under fresh ids. -/
theorem appendVersions_spec (appended : appendVersions ids now rules table = .ok (after, targets)) :
    table <+: after ∧ ((table.map DetectionRuleVersion.id).Nodup →
      (after.map DetectionRuleVersion.id).Nodup) := by
  induction rules generalizing table after targets with
  | nil =>
      obtain ⟨rfl, rfl⟩ := Prod.mk.inj (Except.ok.inj appended)
      exact ⟨List.prefix_rfl, id⟩
  | cons rule rest ih =>
      rcases appendVersions_cases ids now rule rest table with
        ⟨⟨error, fails⟩, _⟩ | ⟨existing, _, _, served, _⟩ | ⟨row, _, _, _, fresh, served, _⟩
      · rw [fails] at appended
        cases appended
      · rw [served] at appended
        obtain ⟨⟨more, others⟩, rest_appended, same⟩ := ok_of_map_ok appended
        obtain ⟨rfl, _⟩ := Prod.mk.inj same
        exact ih rest_appended
      · rw [served] at appended
        obtain ⟨⟨more, others⟩, rest_appended, same⟩ := ok_of_map_ok appended
        obtain ⟨rfl, _⟩ := Prod.mk.inj same
        obtain ⟨grown, unique⟩ := ih rest_appended
        refine ⟨(List.prefix_append _ _).trans grown, fun table_unique => unique ?_⟩
        exact nodup_map_append_singleton table_unique fresh

/-- Activating a version changes neither ids nor definitions. -/
theorem ruleOf_activate (target : Uuid) :
    (activate now table target).map ruleOf = table.map ruleOf := by
  unfold activate
  split
  · rfl
  · dsimp only
    rw [map_updateWhere, map_updateWhere]
    · exact fun _ _ => rfl
    · exact fun _ _ => rfl

/-- **A synchronisation keeps the rules that are there**, under their ids. -/
theorem syncRules_rules {db later : Database}
    (synced : Detection.syncRules ids now db rules = .ok later)
    (unique : (db.ruleVersions.map DetectionRuleVersion.id).Nodup) :
    (later.ruleVersions.map DetectionRuleVersion.id).Nodup ∧
      db.ruleVersions.map ruleOf ⊆ later.ruleVersions.map ruleOf := by
  unfold Detection.syncRules at synced
  split at synced
  · cases synced
  next table targets appended =>
    obtain rfl := Except.ok.inj synced
    obtain ⟨grown, table_unique⟩ := appendVersions_spec appended
    have activated : ∀ (targets : List Uuid) (table : List DetectionRuleVersion),
        (targets.foldl (activate now) table).map ruleOf = table.map ruleOf := by
      intro targets
      induction targets with
      | nil => exact fun _ => rfl
      | cons target rest ih =>
          intro table
          rw [List.foldl_cons, ih, ruleOf_activate]
    have ids_of : ∀ table : List DetectionRuleVersion,
        table.map DetectionRuleVersion.id = (table.map ruleOf).map Prod.fst := by
      intro table
      rw [List.map_map]
      rfl
    constructor
    · rw [ids_of, activated, ← ids_of]
      exact table_unique unique
    · rw [activated]
      exact (grown.map ruleOf).subset

end Synchronisation

/-! ## Runs -/

/-- **Every operation keeps every incident justified.** -/
theorem JustifiedInvariant.step {db after : Database} {operation : LifecycleOperation}
    (inv : JustifiedInvariant db) (taken : LifecycleOperation.step db operation after) :
    JustifiedInvariant after := by
  have sound := LifecycleOperation.sound inv.aggregate taken
  obtain rfl := taken
  cases operation with
  | ingest draws maxAttempts serverId now batch => exact inv.ingest draws maxAttempts serverId now batch
  | transition historyId now request => exact inv.transition historyId now request
  | syncRules ids activatedAt rules =>
      simp only [LifecycleOperation.commit] at sound ⊢
      cases synced : Detection.syncRules ids activatedAt db rules with
      | error failure => exact inv
      | ok later =>
          rw [synced] at sound
          obtain ⟨unique, kept⟩ := syncRules_rules synced inv.ruleIds
          obtain ⟨versions, rfl⟩ := syncRules_frame synced
          exact inv.of_frame sound.invariant rfl rfl unique kept
            fun incident member => ⟨incident, member, rfl, .refl incident⟩
  | configureDestinations destinations =>
      refine inv.of_frame sound.invariant ?_ ?_ ?_ ?_ ?_ <;>
        simp only [LifecycleOperation.commit] <;> split
      · rfl
      · rfl
      · rfl
      · rfl
      · exact inv.ruleIds
      · exact inv.ruleIds
      · exact List.Subset.refl _
      · exact List.Subset.refl _
      · exact fun incident member => ⟨incident, member, rfl, .refl incident⟩
      · exact fun incident member => ⟨incident, member, rfl, .refl incident⟩

theorem JustifiedInvariant.empty : JustifiedInvariant .empty :=
  ⟨.empty, List.nodup_nil, fun _ member => nomatch member⟩

/-- No two stored events have correlations under one rule with one SHA-256 value
and different texts. -/
def CorrelationsCollisionFree (db : Database) : Prop :=
  ∀ version ∈ db.ruleVersions, ∀ one ∈ db.events, ∀ other ∈ db.events,
    ∀ left ∈ correlationOf version.definition one.normalized,
      ∀ right ∈ correlationOf version.definition other.normalized,
        correlationHash left = correlationHash right →
          JsonValue.canonicalValue (Correlation.toJson left) = JsonValue.canonicalValue (Correlation.toJson right)

/-- An event has the correlation values of an incident, as the canonical text
tells them apart. -/
def SharesCorrelation (incident : Incident) (event : Event) : Prop :=
  ∃ correlation, correlationOf incident.ruleSnapshot event.normalized = some correlation ∧
    JsonValue.canonicalValue (Correlation.toJson correlation) =
      JsonValue.canonicalValue (Correlation.toJson incident.correlation)

/-- The correlation fields of a trigger that has them form a group. -/
theorem fieldGroup_of_correlation {trigger : NormalizedEventV1} {fields : List FieldPath}
    {correlation : Correlation}
    (correlates : (fields.mapM fun path => (fieldValue trigger path).map (path, ·)) =
      some correlation) :
    fieldGroup trigger fields =
      some (correlation.map fun entry => JsonValue.canonicalValue entry.2) := by
  unfold fieldGroup
  induction fields generalizing correlation with
  | nil =>
      obtain rfl := Option.some.inj correlates
      rfl
  | cons path rest ih =>
      rw [List.mapM_cons] at correlates
      obtain ⟨_, here, correlates⟩ := Option.bind_eq_some_iff.mp correlates
      obtain ⟨members, there, correlates⟩ := Option.bind_eq_some_iff.mp correlates
      obtain rfl := Option.some.inj correlates
      obtain ⟨value, found, rfl⟩ := Option.map_eq_some_iff.mp here
      rw [List.mapM_cons, found, ih there]
      rfl

/-- Events whose fields have the same texts have correlations with the same
texts. -/
theorem correlation_of_texts {event trigger : NormalizedEventV1} {fields : List FieldPath}
    {correlation : Correlation}
    (correlates : (fields.mapM fun path => (fieldValue trigger path).map (path, ·)) =
      some correlation)
    (texts : ∀ path ∈ fields, (fieldValue event path).map JsonValue.canonicalValue =
      (fieldValue trigger path).map JsonValue.canonicalValue) :
    ∃ other : Correlation,
      (fields.mapM fun path => (fieldValue event path).map (path, ·)) = some other ∧
      JsonValue.canonicalMembers (other.map fun (path, value) => (path.text, value)) =
        JsonValue.canonicalMembers (correlation.map fun (path, value) => (path.text, value)) := by
  induction fields generalizing correlation with
  | nil =>
      obtain rfl := Option.some.inj correlates
      exact ⟨[], rfl, rfl⟩
  | cons path rest ih =>
      rw [List.mapM_cons] at correlates
      obtain ⟨_, here, correlates⟩ := Option.bind_eq_some_iff.mp correlates
      obtain ⟨members, there, correlates⟩ := Option.bind_eq_some_iff.mp correlates
      obtain rfl := Option.some.inj correlates
      obtain ⟨value, found, rfl⟩ := Option.map_eq_some_iff.mp here
      obtain ⟨others, rest_found, same⟩ :=
        ih there fun path member => texts path (List.mem_cons_of_mem _ member)
      have text := texts path List.mem_cons_self
      rw [found, Option.map_some] at text
      obtain ⟨other, event_found, same_text⟩ := Option.map_eq_some_iff.mp text
      refine ⟨(path, other) :: others, ?_, ?_⟩
      · rw [List.mapM_cons, event_found, rest_found]
        rfl
      · simp only [List.map_cons, JsonValue.canonicalMembers, same_text, same]

/-- **An event that supports a match shares the correlation of its trigger.** -/
theorem sharesCorrelation_of_supports {incident : Incident} {trigger event : Event}
    (supports : Supports incident.ruleSnapshot trigger event)
    (grouped : incident.ruleSnapshot.correlationFields ⊆ incident.ruleSnapshot.groupFields)
    {correlation : Correlation}
    (correlates : correlationOf incident.ruleSnapshot trigger.normalized = some correlation)
    (same : JsonValue.canonicalValue (Correlation.toJson correlation) =
      JsonValue.canonicalValue (Correlation.toJson incident.correlation)) :
    SharesCorrelation incident event := by
  have trigger_group := fieldGroup_of_correlation correlates
  have event_group := (supports.group grouped).trans trigger_group
  obtain ⟨other, event_correlates, members⟩ := correlation_of_texts correlates
    (List.map_inj_left.mp
      ((map_of_fieldGroup event_group).trans (map_of_fieldGroup trigger_group).symm))
  refine ⟨other, event_correlates, ?_⟩
  rw [← same]
  simp only [Correlation.toJson, JsonValue.canonicalValue, members]

/-- **Every incident is justified by its evidence.** In every reachable state the
events linked to an incident are of its server and match the rule of its
snapshot; they share its correlation when the correlation fields are among the
group fields of the rule, as long as no two correlations have one hash; and they qualify
for the rule. -/
theorem incidents_justified {path : List (Taken Database LifecycleOperation)} {finish : Database}
    (run : Run LifecycleOperation.step .empty path finish) :
    ∀ incident ∈ finish.incidents,
      (∀ event ∈ linkedEvents finish incident.id,
        event.serverId = incident.serverId ∧ MatchesRule incident.ruleSnapshot event.normalized) ∧
      (CorrelationsCollisionFree finish →
        incident.ruleSnapshot.correlationFields ⊆ incident.ruleSnapshot.groupFields →
        ∀ event ∈ linkedEvents finish incident.id, SharesCorrelation incident event) ∧
      Qualifies incident.ruleSnapshot (linkedEvents finish incident.id) finish.events := by
  have inv := run.invariant (fun _ _ _ inv taken => JustifiedInvariant.step inv taken) .empty
  intro incident member
  obtain ⟨rule, ⟨first, first_stored, first_correlates, hash⟩, belongs, qualifies⟩ :=
    inv.justified incident member
  refine ⟨?_, ?_, qualifies⟩
  · intro event linked
    obtain ⟨trigger, _, triggers, supports⟩ := belongs event linked
    exact ⟨supports.server.trans triggers.server, supports.matching⟩
  · intro collisionFree grouped event linked
    obtain ⟨trigger, stored, ⟨_, correlation, correlates, same_hash⟩, supports⟩ :=
      belongs event linked
    obtain ⟨version, version_member, same⟩ := List.mem_map.mp rule
    have definition : version.definition = incident.ruleSnapshot := (Prod.mk.inj same).2
    refine sharesCorrelation_of_supports supports grouped correlates ?_
    refine collisionFree version version_member trigger stored first first_stored correlation ?_
      incident.correlation ?_ (same_hash.trans hash.symm)
    · rw [definition]
      exact correlates
    · rw [definition]
      exact first_correlates

/-- The incident of the brute force has eight failures, all of its address. -/
theorem incidents_justified_bruteforce :
    ∃ incident ∈ (bruteforceOperations.foldl LifecycleOperation.commit .empty).incidents,
      (∀ event ∈ linkedEvents (bruteforceOperations.foldl LifecycleOperation.commit .empty)
        incident.id, SharesCorrelation incident event) ∧
      Qualifies incident.ruleSnapshot
        (linkedEvents (bruteforceOperations.foldl LifecycleOperation.commit .empty) incident.id)
        (bruteforceOperations.foldl LifecycleOperation.commit .empty).events := by
  have opened : (bruteforceOperations.foldl LifecycleOperation.commit .empty).incidents.length = 1 :=
    by decide +kernel
  obtain ⟨incident, member⟩ := List.exists_mem_of_length_pos (Nat.lt_of_lt_of_eq Nat.one_pos opened.symm)
  have collisionFree : CorrelationsCollisionFree
      (bruteforceOperations.foldl LifecycleOperation.commit .empty) := by
    have one_text : ∀ version ∈
        (bruteforceOperations.foldl LifecycleOperation.commit .empty).ruleVersions,
        ∀ event ∈ (bruteforceOperations.foldl LifecycleOperation.commit .empty).events,
          ∀ correlation ∈ correlationOf version.definition event.normalized,
            JsonValue.canonicalValue (Correlation.toJson correlation) =
              "\x7b\"source_ip\":\"203.0.113.7\"\x7d" := by
      decide +kernel
    intro version version_member one one_member other other_member left left_found right
      right_found _
    exact (one_text version version_member one one_member left left_found).trans
      (one_text version version_member other other_member right right_found).symm
  have run := Run.of_trace LifecycleOperation.commit .empty bruteforceOperations
  have grouped : ∀ incident ∈
      (bruteforceOperations.foldl LifecycleOperation.commit .empty).incidents,
      ∀ field ∈ incident.ruleSnapshot.correlationFields,
        field ∈ incident.ruleSnapshot.groupFields := by
    decide +kernel
  obtain ⟨_, shared, qualifies⟩ := incidents_justified run incident member
  exact ⟨incident, member, shared collisionFree fun _ => grouped incident member _, qualifies⟩

end WolandGuard.Incidents
