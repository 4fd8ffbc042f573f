import WolandGuard.Detection.ArrivalOrder

/-!
# First sightings

When a batch brings a value that its scope has not seen. A trigger of a
`first_seen` rule is compared with every other event of its scope up to its own
instant, the rest of its batch included (`evaluateRule_firstSeen_isSome`). The
batch is therefore reported exactly when one of the sightings is alone: no other
new event of the value lies in its lookback (`first_seen_reported_iff`). Two
sightings at one instant hide each other.
-/

set_option autoImplicit false

namespace WolandGuard.Detection

open Foundations

/-! ## What is reported -/

/-- A trigger matches a rule, and an incident of its group has the evidence. -/
def Reported (db : Database) (stored : DetectionRuleVersion) (trigger : Event) : Prop :=
  ∃ correlation found incident, TurnMatches db.events trigger stored correlation found ∧
    incident ∈ db.incidents ∧ incident.bucket = bucketOf stored trigger correlation ∧
    ∀ event ∈ found.evidence, ∃ link ∈ db.incidentEvents,
      link.incidentId = incident.id ∧ link.eventId = event.id

section Turns

variable {draws : Draws} {maxAttempts : Nat} {db finish : Database} {trigger : Event}
variable {stored : DetectionRuleVersion} {bucket : Bucket} {found : DetectionMatch}
variable {writes : Writes}

/-- An incident of a bucket has links to some events. -/
def HasEvidence (db : Database) (bucket : Bucket) (evidence : List Event) : Prop :=
  ∃ incident ∈ db.incidents, incident.bucket = bucket ∧
    ∀ event ∈ evidence, ∃ link ∈ db.incidentEvents,
      link.incidentId = incident.id ∧ link.eventId = event.id

/-- **A match leaves its evidence in an incident of its bucket.** -/
theorem hasEvidence_of_persistMatch
    (persisted : persistMatch draws maxAttempts db stored trigger bucket found = .ok writes) :
    HasEvidence (db.write writes) bucket found.evidence := by
  have written : ∃ incident now history outbox, incident.bucket = bucket ∧
      writes = linkWrites db incident now trigger found history outbox := by
    rcases persistMatch_cases persisted with
      ⟨incident, active, rfl⟩ | ⟨incident, history, outbox, rfl, _, _, _, _, rfl⟩
    · exact ⟨incident, _, _, _, (activeIncident_spec active).2.1, rfl⟩
    · exact ⟨_, _, history, outbox, rfl, rfl⟩
  obtain ⟨incident, now, history, outbox, in_bucket, rfl⟩ := written
  refine ⟨_, mem_putRow.mpr (.inl rfl), in_bucket, ?_⟩
  intro event member
  by_cases linked : ∃ link ∈ db.linksOf incident.id, link.eventId = event.id
  · obtain ⟨link, there, same⟩ := linked
    obtain ⟨in_table, own⟩ := List.mem_filter.mp there
    exact ⟨link, List.mem_append_left _ in_table, of_decide_eq_true own, same⟩
  · refine ⟨⟨incident.id, event.id, now⟩, List.mem_append_right _ ?_, rfl, rfl⟩
    refine List.mem_map.mpr ⟨event, List.mem_filter.mpr ⟨member, ?_⟩, rfl⟩
    rw [Bool.not_eq_true', List.any_eq_false]
    intro link there same
    exact linked ⟨link, there, of_decide_eq_true same⟩

/-- Another match keeps the evidence. -/
theorem HasEvidence.write {other : Bucket} {evidence : List Event}
    (holds : HasEvidence db other evidence) (keys : PrimaryKeys db)
    (persisted : persistMatch draws maxAttempts db stored trigger bucket found = .ok writes) :
    HasEvidence (db.write writes) other evidence := by
  obtain ⟨incident, member, in_bucket, linked⟩ := holds
  obtain ⟨row, written, row_bucket, replaced⟩ := persistMatch_row persisted keys
  have still_linked : ∀ event ∈ evidence, ∃ link ∈ (db.write writes).incidentEvents,
      link.incidentId = incident.id ∧ link.eventId = event.id := by
    intro event in_evidence
    obtain ⟨link, there, owner, same⟩ := linked event in_evidence
    exact ⟨link, List.mem_append_left _ there, owner, same⟩
  simp only [HasEvidence, Database.write, written, Option.elim_some, mem_putRow]
  by_cases same : incident.id = row.id
  · have row_in : row.bucket = other :=
      row_bucket.trans ((replaced incident member same).symm.trans in_bucket)
    exact ⟨row, .inl rfl, row_in, same ▸ still_linked⟩
  · exact ⟨incident, .inr ⟨member, same⟩, in_bucket, still_linked⟩

theorem HasEvidence.runTurns {items : List (Event × DetectionRuleVersion)}
    {evidence : List Event} (holds : HasEvidence db bucket evidence) (keys : PrimaryKeys db)
    (ran : runTurns draws maxAttempts items db = .ok finish) :
    HasEvidence finish bucket evidence := by
  have kept : ∀ (db : Database) (trigger : Event) (stored : DetectionRuleVersion)
      (correlation : Correlation) (found : DetectionMatch) (writes : Writes),
      (trigger, stored) ∈ items → HasEvidence db bucket evidence ∧ PrimaryKeys db →
      TurnMatches db.events trigger stored correlation found →
      persistMatch draws maxAttempts db stored trigger (bucketOf stored trigger correlation) found =
        .ok writes →
      HasEvidence (db.write writes) bucket evidence ∧ PrimaryKeys (db.write writes) := by
    intro db trigger stored correlation found writes _ ⟨here, keys⟩ _ persisted
    exact ⟨here.write keys persisted, persistMatch_keys persisted keys⟩
  exact (runTurns_invariant kept ran ⟨holds, keys⟩).1

/-- **Every trigger that matches is reported** at the end of the run. -/
theorem reported_of_runTurns {items : List (Event × DetectionRuleVersion)}
    (ran : runTurns draws maxAttempts items db = .ok finish) (keys : PrimaryKeys db)
    (member : (trigger, stored) ∈ items) {correlation : Correlation}
    (matched : TurnMatches db.events trigger stored correlation found) :
    HasEvidence finish (bucketOf stored trigger correlation) found.evidence := by
  induction items generalizing db with
  | nil => cases member
  | cons item rest ih =>
      obtain ⟨first, rule⟩ := item
      unfold runTurns at ran
      split at ran
      · cases ran
      next detected =>
        rcases detectOne_cases detected with ⟨_, no_match⟩ | ⟨_, _, _, other, _⟩
        · rcases List.mem_cons.mp member with here | later
          · obtain ⟨rfl, rfl⟩ := Prod.mk.inj here
            exact absurd matched (no_match correlation found)
          · exact ih ran keys later matched
        · cases other
      next writes detected =>
        rcases detectOne_cases detected with
          ⟨nothing, _⟩ | ⟨other, others, another, same, turn, persisted⟩
        · cases nothing
        · obtain rfl := Option.some.inj same
          have next_keys := persistMatch_keys persisted keys
          rcases List.mem_cons.mp member with here | later
          · obtain ⟨rfl, rfl⟩ := Prod.mk.inj here
            obtain rfl := Option.some.inj (turn.correlates.symm.trans matched.correlates)
            obtain rfl := Option.some.inj (turn.evaluates.symm.trans matched.evaluates)
            exact (hasEvidence_of_persistMatch persisted).runTurns next_keys ran
          · refine ih ran next_keys later ?_
            rwa [Database.write_events, persistMatch_events persisted, List.append_nil]

end Turns

/-! ## Sightings -/

/-- An event of a scope in the lookback of a trigger. -/
def precedes (condition : FirstSeenCondition) (scope : List String)
    (trigger event : NormalizedEventV1) : Bool :=
  trigger.occurredAt - seconds condition.lookbackSeconds ≤ event.occurredAt &&
    event.occurredAt ≤ trigger.occurredAt && matchesEvent event condition.toEventCondition &&
    fieldGroup event condition.scopeFields == some scope

/-- The event has the value. -/
def hasValue (condition : FirstSeenCondition) (value : String) (event : NormalizedEventV1) : Bool :=
  (fieldValue event condition.valueField).map JsonValue.canonicalValue == some value

/-- An event that a `first_seen` rule can report: it matches, and has the scope,
the value and the correlation fields. -/
structure Sighting (rule : RuleDefinition) (condition : FirstSeenCondition) (scope : List String)
    (value : String) (event : NormalizedEventV1) : Prop where
  triggers : canTrigger rule event = true
  correlates : (correlationOf rule event).isSome = true
  scope : fieldGroup event condition.scopeFields = some scope
  value : hasValue condition value event = true

section Sightings

variable {rule : RuleDefinition} {condition : FirstSeenCondition} {scope : List String}
variable {value : String} {trigger : Event} {events : List Event}

/-- A row that the evaluator counts in the baseline of a trigger. -/
def inBaseline (condition : FirstSeenCondition) (scope : List String) (trigger event : Event) :
    Bool :=
  event.serverId = trigger.serverId && event.id ≠ trigger.id &&
    precedes condition scope trigger.normalized event.normalized

/-- The baseline of a trigger, over what the history query returns. -/
theorem firstSeenBaseline_perm (shape : rule.condition = .firstSeen condition) :
    (firstSeenBaseline condition trigger scope ((loadHistory events rule trigger).filter
      (·.serverId = trigger.serverId))).Perm
        (events.filter (inBaseline condition scope trigger)) := by
  have query : historyQuery rule.condition =
      some ([condition.eventType.value], condition.lookbackSeconds) := by
    rw [shape]
    rfl
  refine ((loadHistory_perm query).filter _).trans (.of_eq ?_)
  rw [List.filter_filter, List.filter_filter]
  refine List.filter_congr ?_
  intro event _
  simp only [relevant, query, Option.any_some, inBaseline, precedes, inWindow]
  by_cases same_type : event.normalized.eventType = condition.eventType.value
  · simp only [same_type, List.contains_cons, BEq.rfl, Bool.true_or, Bool.true_and]
    by_cases server : event.serverId = trigger.serverId <;> simp [server]
    grind
  · have unmatched : matchesEvent event.normalized condition.toEventCondition = false := by
      simp [matchesEvent, same_type]
    simp [unmatched]

/-- **A `first_seen` rule matches when the baseline is large enough and without
the value.** -/
theorem evaluateRule_firstSeen_isSome (shape : rule.condition = .firstSeen condition)
    (enabled : rule.enabled = true)
    (sighting : Sighting rule condition scope value trigger.normalized) :
    (evaluateRule rule trigger (loadHistory events rule trigger)).isSome = true ↔
      condition.requirePriorBaselineEvents ≤ events.countP (inBaseline condition scope trigger) ∧
        ∀ event ∈ events, inBaseline condition scope trigger event = true →
          hasValue condition value event.normalized = false := by
  obtain ⟨triggers, correlates, in_scope, has_value⟩ := sighting
  obtain ⟨correlation, correlates⟩ := Option.isSome_iff_exists.mp correlates
  have seen_value : seenValue condition trigger = some value := beq_iff_eq.mp has_value
  have baseline : (firstSeenBaseline condition trigger scope ((loadHistory events rule
      trigger).filter (·.serverId = trigger.serverId))).Perm
        (events.filter (inBaseline condition scope trigger)) := firstSeenBaseline_perm shape
  unfold evaluateRule evaluateCondition evaluateFirstSeen
  simp only [enabled, triggers, correlates, shape, in_scope, seen_value, Bool.not_true, Bool.or_self,
    Bool.false_eq_true, if_false]
  rw [baseline.length_eq, ← List.countP_eq_length_filter, baseline.any_eq, List.any_filter]
  split
  next short => simp only [Option.isSome_none, Bool.false_eq_true, false_iff]; omega
  next enough =>
    split
    next seen =>
      obtain ⟨event, member, holds⟩ := List.any_eq_true.mp seen
      rw [Bool.and_eq_true] at holds
      simp only [Option.isSome_none, Bool.false_eq_true, false_iff]
      intro ⟨_, unseen⟩
      have without := unseen event member holds.1
      rw [hasValue] at without
      exact Bool.noConfusion (without.symm.trans holds.2)
    next unseen =>
      simp only [Option.isSome_some, true_iff]
      refine ⟨Nat.le_of_not_lt enough, ?_⟩
      intro event member before
      by_contra seen
      rw [Bool.not_eq_false] at seen
      refine unseen (List.any_eq_true.mpr ⟨event, member, ?_⟩)
      rw [before, Bool.true_and]
      exact seen

end Sightings

/-! ## New events -/

/-- The events of a batch that are new: their id is not known, and they are the
first with it. -/
def freshEvents (known : List Uuid) : List NormalizedEventV1 → List NormalizedEventV1
  | [] => []
  | event :: rest =>
      if known.contains event.eventId then freshEvents known rest
      else event :: freshEvents (known ++ [event.eventId]) rest

/-- The ids stored for a server. -/
def storedIds (events : List Event) (serverId : Uuid) : List Uuid :=
  (serverEvents events serverId).map (·.eventId)

/-- **A batch inserts its new events.** -/
theorem insertEventBatch_fresh {draws : Draws} {serverId : Uuid} {now : Int}
    {table inserted : List Event} {batch : List NormalizedEventV1}
    (result : insertEventBatch table (batch.map (eventRow draws serverId now)) = .ok inserted) :
    inserted.map Event.normalized = freshEvents (storedIds table serverId) batch := by
  induction batch generalizing table inserted with
  | nil =>
      obtain rfl := Except.ok.inj result
      rfl
  | cons event rest ih =>
      have known_iff : (table.any fun other => other.serverId = serverId &&
          other.agentEventId = event.eventId) = true ↔
            (storedIds table serverId).contains event.eventId = true := by
        simp [storedIds, serverEvents, and_assoc]
      rw [List.map_cons, insertEventBatch] at result
      change (if (table.any fun other => other.serverId = serverId &&
        other.agentEventId = event.eventId) = true then _ else _) = _ at result
      unfold freshEvents
      by_cases known : (storedIds table serverId).contains event.eventId = true
      · rw [if_pos known]
        exact ih (by rwa [if_pos (known_iff.mpr known)] at result)
      · rw [if_neg known]
        rw [if_neg fun present => known (known_iff.mp present)] at result
        split at result
        · cases result
        cases rest_result : insertEventBatch (table ++ [eventRow draws serverId now event])
            (rest.map (eventRow draws serverId now)) with
        | error failure =>
            rw [rest_result] at result
            cases result
        | ok more =>
            rw [rest_result] at result
            obtain rfl := Except.ok.inj result
            have extended : storedIds (table ++ [eventRow draws serverId now event]) serverId =
                storedIds table serverId ++ [event.eventId] := by
              simp [storedIds, serverEvents, eventRow]
            rw [List.map_cons, ih rest_result, extended]
            rfl

theorem freshEvents_unique (known : List Uuid) (batch : List NormalizedEventV1) :
    ((freshEvents known batch).map (·.eventId)).Nodup ∧
      ∀ event ∈ freshEvents known batch, event.eventId ∉ known := by
  induction batch generalizing known with
  | nil => simp [freshEvents]
  | cons event rest ih =>
      unfold freshEvents
      by_cases present : event.eventId ∈ known
      · rw [if_pos (List.contains_iff_mem.mpr present)]
        exact ih known
      · rw [if_neg fun listed => present (List.contains_iff_mem.mp listed)]
        obtain ⟨unique, unknown⟩ := ih (known ++ [event.eventId])
        refine ⟨?_, ?_⟩
        · rw [List.map_cons, List.nodup_cons]
          refine ⟨?_, unique⟩
          intro again
          obtain ⟨other, member, same⟩ := List.mem_map.mp again
          exact unknown other member (same ▸ List.mem_append_right _ List.mem_cons_self)
        · intro other member
          rcases List.mem_cons.mp member with rfl | later
          · exact present
          · exact fun old => unknown other later (List.mem_append_left _ old)

/-- What a committed batch stores and reports. -/
structure Brings (serverId : Uuid) (db after : Database) (stored : DetectionRuleVersion)
    (fresh : List NormalizedEventV1) (inserted : List Event) : Prop where
  events : after.events = db.events ++ inserted
  unique : (after.events.map Event.id).Nodup
  normalized : inserted.map Event.normalized = fresh
  server : ∀ event ∈ inserted, event.serverId = serverId
  reported : ∀ trigger ∈ inserted, Reported after stored trigger ↔
    ∃ correlation found, TurnMatches after.events trigger stored correlation found

theorem IngestStep.brings {serverId : Uuid} {db after : Database}
    {batch : List NormalizedEventV1} (step : IngestStep serverId db batch after)
    (keys : PrimaryKeys db) {stored : DetectionRuleVersion} (active : stored ∈ activeRules db) :
    ∃ inserted, Brings serverId db after stored
      (freshEvents (storedIds db.events serverId) batch) inserted := by
  obtain ⟨draws, maxAttempts, now, committed⟩ := step
  unfold ingestEvents at committed
  split at committed
  · cases committed
  next inserted batch_inserted =>
    obtain ⟨sublist, unique⟩ := insertEventBatch_spec batch_inserted
    have keys_between : PrimaryKeys (db.write (.ofEvents inserted)) :=
      ⟨unique keys.eventIds, keys.ruleIds, keys.incidentIds⟩
    have events : after.events = db.events ++ inserted := (runTurns_frame committed).1
    refine ⟨inserted, events, ?_, insertEventBatch_fresh batch_inserted, ?_, ?_⟩
    · rw [events]
      exact unique keys.eventIds
    · intro event member
      obtain ⟨_, _, rfl⟩ := List.mem_map.mp (sublist.subset member)
      rfl
    · intro trigger new
      have member : (trigger, stored) ∈
          turns (activeRules (db.write (.ofEvents inserted))) inserted :=
        mem_turns.mpr ⟨new, active⟩
      constructor
      · rintro ⟨correlation, found, _, matched, _⟩
        exact ⟨correlation, found, matched⟩
      · rintro ⟨correlation, found, matched⟩
        obtain ⟨incident, there, in_bucket, linked⟩ :=
          reported_of_runTurns committed keys_between member (events ▸ matched)
        exact ⟨correlation, found, incident, matched, there, in_bucket, linked⟩

section Batch

variable {serverId : Uuid} {db after : Database} {stored : DetectionRuleVersion}
variable {fresh : List NormalizedEventV1} {inserted : List Event} {trigger : Event}
variable {condition : FirstSeenCondition} {scope : List String}

/-- The stored part of a baseline. -/
theorem Brings.countP_stored (brings : Brings serverId db after stored fresh inserted)
    (new : trigger ∈ inserted) :
    db.events.countP (inBaseline condition scope trigger) =
      (serverEvents db.events serverId).countP
        (precedes condition scope trigger.normalized) := by
  rw [serverEvents, List.countP_map, List.countP_filter]
  refine List.countP_congr ?_
  intro event old
  have ids := brings.unique
  rw [brings.events, List.map_append, List.nodup_append] at ids
  have different : event.id ≠ trigger.id :=
    ids.2.2 _ (List.mem_map_of_mem old) _ (List.mem_map_of_mem new)
  simp only [inBaseline, brings.server trigger new, Bool.and_eq_true, decide_eq_true_eq,
    Function.comp_apply]
  tauto

/-- A baseline is without a value when the stored events and the other new
events are. -/
theorem Brings.unseen_iff (brings : Brings serverId db after stored fresh inserted)
    (unique : (fresh.map (·.eventId)).Nodup) (new : trigger ∈ inserted) {value : String}
    (unseen : ∀ event ∈ serverEvents db.events serverId,
      precedes condition scope trigger.normalized event = true →
        hasValue condition value event = false) :
    (∀ event ∈ after.events, inBaseline condition scope trigger event = true →
      hasValue condition value event.normalized = false) ↔
    ∀ sibling ∈ fresh, sibling.eventId ≠ trigger.agentEventId →
      precedes condition scope trigger.normalized sibling = true →
        hasValue condition value sibling = false := by
  have ids := brings.unique
  rw [brings.events, List.map_append, List.nodup_append] at ids
  rw [← brings.normalized, List.map_map] at unique
  rw [brings.events, ← brings.normalized]
  constructor
  · intro all sibling member different before
    obtain ⟨row, row_new, rfl⟩ := List.mem_map.mp member
    refine all row (List.mem_append_right _ row_new) ?_
    have other : row.id ≠ trigger.id := by
      intro same
      obtain rfl := List.inj_on_of_nodup_map ids.2.1 row_new new same
      exact different rfl
    simp [inBaseline, brings.server row row_new, brings.server trigger new, other, before]
  · intro siblings event member counted
    simp only [inBaseline, Bool.and_eq_true, decide_eq_true_eq] at counted
    obtain ⟨⟨same_server, different⟩, before⟩ := counted
    rcases List.mem_append.mp member with old | event_new
    · refine unseen _ (List.mem_map_of_mem (List.mem_filter.mpr ⟨old, ?_⟩)) before
      exact decide_eq_true (same_server.trans (brings.server trigger new))
    · refine siblings _ (List.mem_map_of_mem event_new) ?_ before
      intro same
      exact different (congrArg Event.id (List.inj_on_of_nodup_map unique event_new new same))

end Batch

/-- **First sightings.** A batch brings sightings of a value that no stored
event of the scope has in the lookback of any of them, and enough stored events
of the scope precede each. Then one of them is reported if and only if one of
them is alone: no other new event of the scope has the value in its lookback. -/
theorem first_seen_reported_iff {serverId : Uuid} {db after : Database}
    {batch : List NormalizedEventV1} (step : IngestStep serverId db batch after)
    (keys : PrimaryKeys db) {stored : DetectionRuleVersion} (active : stored ∈ activeRules db)
    (enabled : stored.definition.enabled = true) {condition : FirstSeenCondition}
    (shape : stored.definition.condition = .firstSeen condition) (scope : List String)
    (value : String)
    (unseen : ∀ trigger ∈ freshEvents (storedIds db.events serverId) batch,
      Sighting stored.definition condition scope value trigger →
        ∀ event ∈ serverEvents db.events serverId, precedes condition scope trigger event = true →
          hasValue condition value event = false)
    (baseline : ∀ trigger ∈ freshEvents (storedIds db.events serverId) batch,
      Sighting stored.definition condition scope value trigger →
        condition.requirePriorBaselineEvents ≤
          (serverEvents db.events serverId).countP (precedes condition scope trigger)) :
    (∃ trigger ∈ after.events.drop db.events.length,
      Sighting stored.definition condition scope value trigger.normalized ∧
        Reported after stored trigger) ↔
    ∃ trigger ∈ freshEvents (storedIds db.events serverId) batch,
      Sighting stored.definition condition scope value trigger ∧
        ∀ sibling ∈ freshEvents (storedIds db.events serverId) batch,
          sibling.eventId ≠ trigger.eventId → precedes condition scope trigger sibling = true →
            hasValue condition value sibling = false := by
  obtain ⟨inserted, brings⟩ := step.brings keys active
  obtain ⟨unique, _⟩ := freshEvents_unique (storedIds db.events serverId) batch
  generalize freshEvents (storedIds db.events serverId) batch = fresh at *
  have normalized := brings.normalized
  -- a sighting is reported exactly when it is alone
  have each : ∀ trigger ∈ inserted,
      Sighting stored.definition condition scope value trigger.normalized →
        (Reported after stored trigger ↔ ∀ sibling ∈ fresh,
          sibling.eventId ≠ trigger.agentEventId →
            precedes condition scope trigger.normalized sibling = true →
              hasValue condition value sibling = false) := by
    intro trigger new sighting
    have listed : trigger.normalized ∈ fresh := normalized ▸ List.mem_map_of_mem new
    have matches_iff : (evaluateRule stored.definition trigger
        (loadHistory after.events stored.definition trigger)).isSome = true ↔ _ :=
      evaluateRule_firstSeen_isSome shape enabled sighting
    rw [brings.reported trigger new, ← brings.unseen_iff unique new (unseen _ listed sighting)]
    have enough : condition.requirePriorBaselineEvents ≤
        after.events.countP (inBaseline condition scope trigger) := by
      rw [brings.events, List.countP_append, brings.countP_stored new]
      exact (baseline _ listed sighting).trans (Nat.le_add_right _ _)
    constructor
    · rintro ⟨correlation, found, matched⟩
      exact (matches_iff.mp (matched.evaluates ▸ rfl)).2
    · intro alone
      obtain ⟨correlation, correlates⟩ := Option.isSome_iff_exists.mp sighting.correlates
      obtain ⟨found, evaluates⟩ := Option.isSome_iff_exists.mp (matches_iff.mpr ⟨enough, alone⟩)
      exact ⟨correlation, found, sighting.triggers, correlates, evaluates⟩
  rw [brings.events, List.drop_left]
  constructor
  · rintro ⟨trigger, new, sighting, reported⟩
    exact ⟨trigger.normalized, normalized ▸ List.mem_map_of_mem new, sighting,
      (each trigger new sighting).mp reported⟩
  · rintro ⟨event, listed, sighting, alone⟩
    rw [← normalized] at listed
    obtain ⟨trigger, new, rfl⟩ := List.mem_map.mp listed
    exact ⟨trigger, new, sighting, (each trigger new sighting).mpr alone⟩

/-! ## Two logins in one second -/

/-- The condition of the shipped rule `ssh_login_from_new_ip`: an address that
an account has not logged in from for thirty days. -/
def newAddress : FirstSeenCondition where
  eventType := .sshLoginSucceeded
  filters := []
  valueField := ["source_ip"]
  scopeFields := [["actor"]]
  lookbackSeconds := 2592000
  requirePriorBaselineEvents := 1
  scopeFields_nonempty := List.cons_ne_nil _ _
  lookbackSeconds_pos := Nat.succ_pos 2591999

def newAddressTitle : String := "SSH-вход пользователя с нового IP"

def newAddressTitleEn : String := "SSH login from a new IP address"

theorem newAddressTitle_length :
    1 ≤ newAddressTitle.length ∧ newAddressTitle.length ≤ 255 := by
  decide

theorem newAddressTitleEn_length :
    ∀ text ∈ some newAddressTitleEn, 1 ≤ text.length ∧ text.length ≤ 255 := by
  decide

theorem newAddress_fieldListsUnique :
    ∀ fields ∈ [["actor"], ["source_ip"]] :: (Condition.firstSeen newAddress).fieldLists,
      fields.Nodup := by
  decide

/-- The shipped rule. -/
def sshLoginFromNewIp : RuleDefinition where
  ruleKey := "ssh_login_from_new_ip"
  version := 2
  enabled := true
  severity := .medium
  title := newAddressTitle
  description := "Пользователь успешно вошёл с адреса, не встречавшегося за тридцать дней."
  explanation :=
    "Новый адрес может быть легитимным изменением или использованием чужих учётных данных."
  recommendation := "Подтвердите вход у владельца аккаунта и проверьте последующую активность."
  titleEn := some newAddressTitleEn
  descriptionEn := some "A user signed in from an address not seen in the past thirty days."
  explanationEn := some "A new address may be a legitimate change or the use of stolen credentials."
  recommendationEn :=
    some "Confirm the login with the account owner and review the activity that followed."
  mitreAttackIds := ["T1078", "T1021.004"]
  condition := .firstSeen newAddress
  correlationFields := [["actor"], ["source_ip"]]
  version_pos := Nat.succ_pos 1
  title_length := newAddressTitle_length
  titleEn_length := newAddressTitleEn_length
  correlationFields_nonempty := List.cons_ne_nil _ _
  fieldListsUnique := newAddress_fieldListsUnique

def newAddressVersion : DetectionRuleVersion where
  id := 101
  ruleKey := sshLoginFromNewIp.ruleKey
  version := sshLoginFromNewIp.version
  enabled := true
  severity := sshLoginFromNewIp.severity
  checksum := ""
  definition := sshLoginFromNewIp
  isActive := true
  createdAt := 0
  activatedAt := some 0

/-- A login of root. -/
def loginAt (number second : Nat) (address : String) : NormalizedEventV1 where
  eventId := BitVec.ofNat 128 number
  schemaVersion := 1
  source := .syslogFile
  eventType := "linux.ssh.login_succeeded"
  occurredAt := seconds second
  collectedAt := seconds second
  payload := .obj [("actor", .str "root"), ("source_ip", .str address)]

/-- A login from a known address is stored. -/
def knownLogin : Database :=
  { Database.empty with
    events := [⟨1, 1, 0, loginAt 1 0 "192.0.2.1"⟩]
    ruleVersions := [newAddressVersion] }

/-- Two logins from a new address. -/
def newLogins (second : Nat) : List NormalizedEventV1 :=
  [loginAt 2 100 "198.51.100.9", loginAt 3 second "198.51.100.9"]

theorem knownLogin_keys : PrimaryKeys knownLogin := ⟨by decide, by decide, by decide⟩

theorem newAddressVersion_active : newAddressVersion ∈ activeRules knownLogin :=
  mem_activeRules.mpr ⟨List.mem_cons_self, rfl, rfl⟩

/-- The text of the new address. -/
def newAddressText : String := "\"198.51.100.9\""

theorem newLogins_sighting :
    Sighting sshLoginFromNewIp newAddress ["\"root\""] newAddressText
      (loginAt 2 100 "198.51.100.9") :=
  ⟨by decide +kernel, by decide +kernel, by decide +kernel, by decide +kernel⟩

theorem knownLogin_unseen :
    ∀ event ∈ serverEvents knownLogin.events 1,
      hasValue newAddress newAddressText event = false := by
  decide +kernel

/-- **Two first sightings in one second are not reported.** -/
theorem simultaneous_sightings_not_reported :
    IngestStep 1 knownLogin (newLogins 100) (afterBatch knownLogin (newLogins 100)) ∧
      Sighting sshLoginFromNewIp newAddress ["\"root\""] newAddressText
        (loginAt 2 100 "198.51.100.9") ∧
      (∀ event ∈ serverEvents knownLogin.events 1,
        hasValue newAddress newAddressText event = false) ∧
      (∀ trigger ∈ newLogins 100, newAddress.requirePriorBaselineEvents ≤
        (serverEvents knownLogin.events 1).countP (precedes newAddress ["\"root\""] trigger)) ∧
      (afterBatch knownLogin (newLogins 100)).events.length = 3 ∧
      (afterBatch knownLogin (newLogins 100)).incidents.length = 0 :=
  ⟨ingestStep_afterBatch (by decide +kernel), newLogins_sighting, knownLogin_unseen,
    by decide +kernel, by decide +kernel, by decide +kernel⟩

/-- A second later one of them is. -/
theorem first_seen_reported_iff_apart :
    ∃ trigger ∈ (afterBatch knownLogin (newLogins 101)).events.drop knownLogin.events.length,
      Sighting sshLoginFromNewIp newAddress ["\"root\""] newAddressText trigger.normalized ∧
        Reported (afterBatch knownLogin (newLogins 101)) newAddressVersion trigger := by
  have step : IngestStep 1 knownLogin (newLogins 101) (afterBatch knownLogin (newLogins 101)) :=
    ingestStep_afterBatch (by decide +kernel)
  have baseline : ∀ trigger ∈ freshEvents (storedIds knownLogin.events 1) (newLogins 101),
      1 ≤ (serverEvents knownLogin.events 1).countP
        (precedes newAddress ["\"root\""] trigger) := by
    decide +kernel
  refine (first_seen_reported_iff step knownLogin_keys newAddressVersion_active rfl rfl _ _
    (fun _ _ _ event stored _ => knownLogin_unseen event stored)
    (fun trigger new _ => baseline trigger new)).mpr ?_
  have fresh : freshEvents (storedIds knownLogin.events 1) (newLogins 101) = newLogins 101 := rfl
  rw [fresh]
  exact ⟨_, List.mem_cons_self, newLogins_sighting, by decide +kernel⟩

end WolandGuard.Detection
