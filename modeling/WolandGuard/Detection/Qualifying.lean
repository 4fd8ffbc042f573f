import WolandGuard.Detection.Sequences

/-!
# Qualifying evidence

What evidence has to contain for a rule to match: enough events of one group
inside one window, enough different values, an assignment to the steps of a
sequence, or a trigger whose value the events of its lookback do not have.
The evidence of a match has that (`qualifies_of_match`), is of the trigger's
server and matches the rule (`supports_of_match`). More evidence never hurts
(`Qualifies.mono`).
-/

set_option autoImplicit false

namespace WolandGuard.Detection

open Foundations

/-! ## Events of a rule -/

/-- The event types and filters of a rule: those of its steps for a sequence. -/
def Condition.conditions : Condition → List EventCondition
  | .single condition => [condition]
  | .threshold condition => [condition.toEventCondition]
  | .distinctCount condition => [condition.toEventCondition]
  | .sequence condition => condition.steps.map (·.toEventCondition)
  | .firstSeen condition => [condition.toEventCondition]

/-- An event has the event type and the filters of a rule. -/
def MatchesRule (rule : RuleDefinition) (event : NormalizedEventV1) : Prop :=
  ∃ condition ∈ rule.condition.conditions, matchesEvent event condition = true

/-- The fields that the events of a match have in common. -/
def RuleDefinition.groupFields (rule : RuleDefinition) : List FieldPath :=
  match rule.condition with
  | .single _ => rule.correlationFields
  | .threshold condition => condition.groupBy
  | .distinctCount condition => condition.groupBy
  | .sequence _ => rule.correlationFields
  | .firstSeen condition => condition.scopeFields

/-- Events of one group inside one window. -/
structure Together (condition : EventCondition) (groupBy : List FieldPath) (window : Nat)
    (evidence set : List Event) : Prop where
  nodup : set.Nodup
  subset : set ⊆ evidence
  matching : ∀ event ∈ set, matchesEvent event.normalized condition = true
  group : ∃ group, ∀ event ∈ set, fieldGroup event.normalized groupBy = some group
  window : ∃ start, ∀ event ∈ set,
    start ≤ event.occurredAt ∧ event.occurredAt ≤ start + seconds window

/-- **The evidence qualifies for a rule**, where the baseline of a first sighting
is what was stored up to some point. -/
def Qualifies (rule : RuleDefinition) (evidence stored : List Event) : Prop :=
  match rule.condition with
  | .single condition => ∃ event ∈ evidence, matchesEvent event.normalized condition = true
  | .threshold condition =>
      ∃ set, Together condition.toEventCondition condition.groupBy condition.windowSeconds
        evidence set ∧ condition.threshold ≤ set.length
  | .distinctCount condition =>
      ∃ set, Together condition.toEventCondition condition.groupBy condition.windowSeconds
        evidence set ∧ condition.minimumEvents ≤ set.length ∧
          condition.distinctThreshold ≤
            (set.filterMap (distinctValue condition)).dedup.length
  | .sequence condition =>
      ∃ trigger sets, Assignment rule condition trigger evidence sets
  | .firstSeen condition =>
      ∃ trigger seen scope value, seen <+: stored ∧ trigger ∈ evidence ∧ trigger ∈ seen ∧
        Sighting rule condition scope value trigger.normalized ∧
        condition.requirePriorBaselineEvents ≤
          seen.countP (inBaseline condition scope trigger) ∧
        ∀ event ∈ seen, inBaseline condition scope trigger event = true →
          event ∈ evidence ∧ hasValue condition value event.normalized = false

/-- **More evidence never hurts.** -/
theorem Qualifies.mono {rule : RuleDefinition} {evidence more stored later : List Event}
    (qualifies : Qualifies rule evidence stored) (subset : evidence ⊆ more)
    (grown : stored <+: later) : Qualifies rule more later := by
  have together : ∀ {condition groupBy window set}, Together condition groupBy window evidence set →
      Together condition groupBy window more set := fun holds =>
    ⟨holds.nodup, List.Subset.trans holds.subset subset, holds.matching, holds.group, holds.window⟩
  unfold Qualifies at qualifies ⊢
  split at qualifies
  · obtain ⟨event, member, holds⟩ := qualifies
    exact ⟨event, subset member, holds⟩
  · obtain ⟨set, holds, enough⟩ := qualifies
    exact ⟨set, together holds, enough⟩
  · obtain ⟨set, holds, enough⟩ := qualifies
    exact ⟨set, together holds, enough⟩
  · obtain ⟨trigger, sets, fills, ordered, ending⟩ := qualifies
    refine ⟨trigger, sets, ?_, ordered, ending⟩
    exact fills.imp fun step set fill => fill.imp fun event usable =>
      ⟨subset usable.1, usable.2⟩
  · obtain ⟨trigger, seen, scope, value, before, member, there, sighting, enough, baseline⟩ :=
      qualifies
    refine ⟨trigger, seen, scope, value, before.trans grown, subset member, there, sighting, enough,
      ?_⟩
    intro event event_seen counted
    obtain ⟨linked, without⟩ := baseline event event_seen counted
    exact ⟨subset linked, without⟩

/-! ## Matches -/

/-- What every event of a match has in common with its trigger. -/
structure Supports (rule : RuleDefinition) (trigger event : Event) : Prop where
  server : event.serverId = trigger.serverId
  matching : MatchesRule rule event.normalized
  group : rule.correlationFields ⊆ rule.groupFields →
    fieldGroup event.normalized rule.correlationFields =
      fieldGroup trigger.normalized rule.correlationFields

/-- A group has the texts of its fields. -/
theorem map_of_fieldGroup {event : NormalizedEventV1} {fields : List FieldPath}
    {group : List String} (found : fieldGroup event fields = some group) :
    (fields.map fun path => (fieldValue event path).map JsonValue.canonicalValue) =
      group.map some := by
  unfold fieldGroup at found
  induction fields generalizing group with
  | nil =>
      obtain rfl := Option.some.inj found
      rfl
  | cons head tail ih =>
      rw [List.mapM_cons] at found
      obtain ⟨text, here, found⟩ := Option.bind_eq_some_iff.mp found
      obtain ⟨texts, rest, found⟩ := Option.bind_eq_some_iff.mp found
      obtain rfl := Option.some.inj found
      rw [List.map_cons, List.map_cons, here, ih rest]

/-- Equal groups are equal on fewer fields. -/
theorem fieldGroup_of_subset {event other : NormalizedEventV1} {fields fewer : List FieldPath}
    {group : List String} (left : fieldGroup event fields = some group)
    (right : fieldGroup other fields = some group) (subset : fewer ⊆ fields) :
    fieldGroup event fewer = fieldGroup other fewer := by
  have pointwise := List.map_inj_left.mp
    ((map_of_fieldGroup left).trans (map_of_fieldGroup right).symm)
  unfold fieldGroup
  induction fewer with
  | nil => rfl
  | cons head tail ih =>
      rw [List.mapM_cons, List.mapM_cons, pointwise head (subset List.mem_cons_self),
        ih fun path member => subset (List.mem_cons_of_mem _ member)]

section Match

variable {rule : RuleDefinition} {trigger : Event} {events history : List Event}
variable {correlation : Correlation} {found : DetectionMatch}

/-- A condition without steps has one event type and one list of filters. -/
theorem matchesRule_of_conditions {condition : EventCondition} {event : NormalizedEventV1}
    (shape : rule.condition.conditions = [condition])
    (matching : matchesEvent event condition = true) : MatchesRule rule event := by
  refine ⟨condition, ?_, matching⟩
  rw [shape]
  exact List.mem_cons_self

/-- Events of a history that are in the window, match and have the group. -/
theorem together_filter {condition : EventCondition} {groupBy : List FieldPath} {window : Nat}
    {group : List String} {p : Event → Bool} {evidence : List Event} (unique : history.Nodup)
    (subset : history.filter p ⊆ evidence)
    (holds : ∀ event, p event = true →
      inWindow (trigger.occurredAt - seconds window) trigger.occurredAt event = true ∧
        matchesEvent event.normalized condition = true ∧
          fieldGroup event.normalized groupBy = some group) :
    Together condition groupBy window evidence (history.filter p) where
  nodup := unique.filter _
  subset := subset
  matching event member := (holds event (List.mem_filter.mp member).2).2.1
  group := ⟨group, fun event member => (holds event (List.mem_filter.mp member).2).2.2⟩
  window := by
    refine ⟨trigger.occurredAt - seconds window, ?_⟩
    intro event member
    have in_window := (holds event (List.mem_filter.mp member).2).1
    simp only [inWindow, Bool.and_eq_true, decide_eq_true_eq] at in_window
    omega

/-- The events of a match that share a group with the trigger. -/
theorem supports_filter {condition : EventCondition} {groupBy : List FieldPath}
    {group : List String} (shape : rule.condition.conditions = [condition])
    (grouped : rule.groupFields = groupBy)
    (trigger_group : fieldGroup trigger.normalized groupBy = some group) {event : Event}
    (server : event.serverId = trigger.serverId)
    (matching : matchesEvent event.normalized condition = true)
    (event_group : fieldGroup event.normalized groupBy = some group) :
    Supports rule trigger event :=
  ⟨server, matchesRule_of_conditions shape matching, fun subset =>
    fieldGroup_of_subset event_group trigger_group (grouped ▸ subset)⟩

/-- Evidence that qualifies for a rule and supports a match. -/
def Justifies (rule : RuleDefinition) (trigger : Event) (stored evidence : List Event) : Prop :=
  Qualifies rule evidence stored ∧ ∀ event ∈ evidence, Supports rule trigger event

variable {stored : List Event}

theorem evaluateThreshold_justifies {condition : ThresholdCondition}
    (shape : rule.condition = .threshold condition) (unique : (history.map Event.id).Nodup)
    (server : ∀ event ∈ history, event.serverId = trigger.serverId)
    (matched : evaluateThreshold condition trigger history correlation = some found) :
    Justifies rule trigger stored found.evidence := by
  unfold evaluateThreshold at matched
  split at matched
  · cases matched
  next group trigger_group =>
    dsimp only at matched
    split at matched
    · cases matched
    next enough =>
      obtain rfl := Option.some.inj matched
      have perm := uniqueEvents_perm (unique.sublist (List.filter_sublist.map Event.id) :
        ((thresholdEvidence condition trigger group history).map Event.id).Nodup)
      have holds : ∀ event, (inWindow (trigger.occurredAt - seconds condition.windowSeconds)
          trigger.occurredAt event && matchesEvent event.normalized condition.toEventCondition &&
            fieldGroup event.normalized condition.groupBy == some group) = true →
          inWindow (trigger.occurredAt - seconds condition.windowSeconds) trigger.occurredAt event =
            true ∧ matchesEvent event.normalized condition.toEventCondition = true ∧
              fieldGroup event.normalized condition.groupBy = some group := by
        intro event counted
        simp only [Bool.and_eq_true, beq_iff_eq] at counted
        exact ⟨counted.1.1, counted.1.2, counted.2⟩
      constructor
      · simp only [Qualifies, shape]
        exact ⟨_, together_filter (List.Nodup.of_map _ unique) perm.symm.subset holds,
          Nat.le_of_not_lt enough⟩
      · intro event member
        obtain ⟨in_history, counted⟩ := List.mem_filter.mp (perm.mem_iff.mp member)
        obtain ⟨_, matching, event_group⟩ := holds event counted
        exact supports_filter (by rw [shape]; rfl) (by rw [RuleDefinition.groupFields, shape])
          trigger_group (server event in_history) matching event_group

theorem evaluateDistinct_justifies {condition : DistinctCountCondition}
    (shape : rule.condition = .distinctCount condition) (unique : (history.map Event.id).Nodup)
    (server : ∀ event ∈ history, event.serverId = trigger.serverId)
    (matched : evaluateDistinct condition trigger history correlation = some found) :
    Justifies rule trigger stored found.evidence := by
  unfold evaluateDistinct at matched
  split at matched
  · cases matched
  next group trigger_group =>
    dsimp only at matched
    split at matched
    · cases matched
    next enough =>
      obtain rfl := Option.some.inj matched
      have perm := uniqueEvents_perm (unique.sublist (List.filter_sublist.map Event.id) :
        ((distinctEvidence condition trigger group history).map Event.id).Nodup)
      have holds : ∀ event, (inWindow (trigger.occurredAt - seconds condition.windowSeconds)
          trigger.occurredAt event && matchesEvent event.normalized condition.toEventCondition &&
            fieldGroup event.normalized condition.groupBy == some group &&
            (distinctValue condition event).isSome) = true →
          inWindow (trigger.occurredAt - seconds condition.windowSeconds) trigger.occurredAt event =
            true ∧ matchesEvent event.normalized condition.toEventCondition = true ∧
              fieldGroup event.normalized condition.groupBy = some group := by
        intro event counted
        simp only [Bool.and_eq_true, beq_iff_eq] at counted
        exact ⟨counted.1.1.1, counted.1.1.2, counted.1.2⟩
      rw [not_or] at enough
      constructor
      · simp only [Qualifies, shape]
        exact ⟨_, together_filter (List.Nodup.of_map _ unique) perm.symm.subset holds,
          Nat.le_of_not_lt enough.1, Nat.le_of_not_lt enough.2⟩
      · intro event member
        obtain ⟨in_history, counted⟩ := List.mem_filter.mp (perm.mem_iff.mp member)
        obtain ⟨_, matching, event_group⟩ := holds event counted
        exact supports_filter (by rw [shape]; rfl) (by rw [RuleDefinition.groupFields, shape])
          trigger_group (server event in_history) matching event_group

theorem evaluateSequence_justifies {condition : SequenceCondition}
    (shape : rule.condition = .sequence condition) (member : trigger ∈ history)
    (unique : (history.map Event.id).Nodup)
    (matched : evaluateSequence rule condition trigger (sameServer trigger history) correlation =
      some found) : Justifies rule trigger stored found.evidence := by
  obtain ⟨sets, ⟨fills, ordered, ending⟩, perm⟩ :=
    assignment_of_evaluateSequence member unique matched
  constructor
  · simp only [Qualifies, shape]
    refine ⟨trigger, sets, forall₂_of_mem fills ?_, ordered, ending⟩
    intro step set set_member fill
    refine ⟨fill.nodup, fill.enough, ?_, fill.matching⟩
    intro event event_member
    refine ⟨perm.mem_iff.mpr ?_, (fill.available event event_member).2⟩
    exact List.mem_flatten.mpr ⟨set, set_member, event_member⟩
  · intro event in_evidence
    obtain ⟨set, set_member, event_member⟩ := List.mem_flatten.mp (perm.mem_iff.mp in_evidence)
    obtain ⟨step, step_member, fill⟩ := exists_of_forall₂ fills set_member
    obtain ⟨_, same_server, _, _, same_group⟩ := fill.available event event_member
    refine ⟨same_server, ⟨step.toEventCondition, ?_, fill.matching event event_member⟩, ?_⟩
    · rw [shape]
      exact List.mem_map_of_mem step_member
    · exact fun _ => same_group

/-- A sighting alone in its lookback justifies itself with its baseline. -/
theorem evaluateFirstSeen_justifies {condition : FirstSeenCondition}
    (shape : rule.condition = .firstSeen condition) (member : trigger ∈ events)
    (unique : (events.map Event.id).Nodup)
    (triggers : canTrigger rule trigger.normalized = true)
    (correlates : correlationOf rule trigger.normalized = some correlation)
    (matched : evaluateFirstSeen condition trigger ((loadHistory events rule trigger).filter
      (·.serverId = trigger.serverId)) correlation = some found) :
    Justifies rule trigger events found.evidence := by
  unfold evaluateFirstSeen at matched
  split at matched
  next current scope seen trigger_scope =>
    dsimp only at matched
    split at matched
    · cases matched
    next enough =>
      split at matched
      · cases matched
      next unseen =>
        obtain rfl := Option.some.inj matched
        have perm : (firstSeenBaseline condition trigger scope ((loadHistory events rule
            trigger).filter (·.serverId = trigger.serverId))).Perm
              (events.filter (inBaseline condition scope trigger)) := firstSeenBaseline_perm shape
        generalize firstSeenBaseline condition trigger scope ((loadHistory events rule
          trigger).filter (·.serverId = trigger.serverId)) = baseline at perm enough unseen
        have counted : ∀ event ∈ baseline, event ∈ events ∧
            inBaseline condition scope trigger event = true :=
          fun event there => List.mem_filter.mp (perm.mem_iff.mp there)
        have ids : ((baseline ++ [trigger]).map Event.id).Nodup := by
          rw [List.map_append, List.map_singleton, List.nodup_append]
          refine ⟨?_, List.nodup_singleton _, ?_⟩
          · exact (perm.map Event.id).nodup_iff.mpr (unique.sublist (List.filter_sublist.map _))
          · intro eventId there other alone same
            obtain rfl := List.mem_singleton.mp alone
            obtain ⟨event, in_baseline, rfl⟩ := List.mem_map.mp there
            have apart := (counted event in_baseline).2
            simp [inBaseline, same] at apart
        have evidence := uniqueEvents_perm ids
        have in_evidence : ∀ event ∈ events, inBaseline condition scope trigger event = true →
            event ∈ baseline :=
          fun event there holds => perm.mem_iff.mpr (List.mem_filter.mpr ⟨there, holds⟩)
        constructor
        · simp only [Qualifies, shape]
          refine ⟨trigger, events, scope, current, List.prefix_rfl, ?_, member, ?_, ?_, ?_⟩
          · exact evidence.mem_iff.mpr (List.mem_append_right _ List.mem_cons_self)
          · exact ⟨triggers, Option.isSome_iff_exists.mpr ⟨_, correlates⟩, trigger_scope,
              beq_iff_eq.mpr seen⟩
          · rw [List.countP_eq_length_filter, ← perm.length_eq]
            exact Nat.le_of_not_lt enough
          · intro event there holds
            have listed := in_evidence event there holds
            refine ⟨evidence.mem_iff.mpr (List.mem_append_left _ listed), ?_⟩
            by_contra has_value
            rw [Bool.not_eq_false] at has_value
            exact unseen (List.any_eq_true.mpr ⟨event, listed, has_value⟩)
        · have conditions : rule.condition.conditions = [condition.toEventCondition] := by
            rw [shape]
            rfl
          have fields : rule.groupFields = condition.scopeFields := by
            rw [RuleDefinition.groupFields, shape]
          intro event there
          rcases List.mem_append.mp (evidence.mem_iff.mp there) with listed | alone
          · have holds := (counted event listed).2
            simp only [inBaseline, precedes, Bool.and_eq_true, decide_eq_true_eq, beq_iff_eq]
              at holds
            exact supports_filter conditions fields trigger_scope holds.1.1 holds.2.1.2 holds.2.2
          · obtain rfl := List.mem_singleton.mp alone
            rw [canTrigger, shape] at triggers
            exact supports_filter conditions fields trigger_scope rfl triggers trigger_scope
  · cases matched


/-- The history that a rule is evaluated on has no event twice. -/
theorem loadHistory_unique (unique : (events.map Event.id).Nodup) :
    (((loadHistory events rule trigger).filter (·.serverId = trigger.serverId)).map
      Event.id).Nodup := by
  cases query : historyQuery rule.condition with
  | none => simp [loadHistory, query]
  | some window =>
      exact ((loadHistory_perm query).map Event.id).nodup_iff.mpr
        (unique.sublist ((List.filter_sublist.trans List.filter_sublist).map Event.id))

/-- **The evidence of a match justifies it**: it qualifies for the rule, and every
event of it is of the trigger's server and matches the rule. -/
theorem evaluateRule_justifies (member : trigger ∈ events) (unique : (events.map Event.id).Nodup)
    (matched : evaluateRule rule trigger (loadHistory events rule trigger) = some found) :
    Justifies rule trigger events found.evidence := by
  unfold evaluateRule at matched
  split at matched
  · cases matched
  next able =>
    simp only [Bool.or_eq_true, Bool.not_eq_true', not_or, Bool.not_eq_false] at able
    split at matched
    · cases matched
    next correlation correlates =>
      have server : ∀ event ∈ (loadHistory events rule trigger).filter
          (·.serverId = trigger.serverId), event.serverId = trigger.serverId :=
        fun event there => of_decide_eq_true (List.mem_filter.mp there).2
      have history_unique : (((loadHistory events rule trigger).filter
          (·.serverId = trigger.serverId)).map Event.id).Nodup := loadHistory_unique unique
      unfold evaluateCondition at matched
      split at matched
      next condition shape =>
        obtain rfl := Option.some.inj matched
        have triggers := able.2
        rw [canTrigger, shape] at triggers
        constructor
        · simp only [Qualifies, shape]
          exact ⟨trigger, List.mem_cons_self, triggers⟩
        · intro event there
          obtain rfl := List.mem_singleton.mp there
          exact ⟨rfl, matchesRule_of_conditions (by rw [shape]; rfl) triggers, fun _ => rfl⟩
      next condition shape => exact evaluateThreshold_justifies shape history_unique server matched
      next condition shape => exact evaluateDistinct_justifies shape history_unique server matched
      next condition shape =>
        have in_history : trigger ∈ loadHistory events rule trigger :=
          trigger_mem_loadHistory member able.2 (by rw [shape]; rfl)
        have own : sameServer trigger ((loadHistory events rule trigger).filter
            (·.serverId = trigger.serverId)) =
              (loadHistory events rule trigger).filter (·.serverId = trigger.serverId) :=
          List.filter_eq_self.mpr fun event there => decide_eq_true (server event there)
        rw [← own] at matched
        exact evaluateSequence_justifies shape (List.mem_filter.mpr ⟨in_history, by simp⟩)
          history_unique matched
      next condition shape =>
        exact evaluateFirstSeen_justifies shape member unique able.2 correlates matched

end Match

end WolandGuard.Detection
