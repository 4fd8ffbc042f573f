import WolandGuard.Detection.Evaluate
import WolandGuard.Foundations.Ranking

/-!
# When a windowed rule fires

What the evaluators of windowed rules decide, said without choosing any
evidence. A threshold counts events, a distinct count counts values, and a
sequence asks for one cut between the events of any two consecutive steps
(`StepsFeasible`). These conditions look only at how many events of a kind
there are. They do not depend on ids or on the order of the history, and more
events never make them false (`WindowFires.mono`).

The evaluators return a match exactly when the condition holds
(`evaluateCondition_isSome`). For the greedy sequence this rests on the rank
rule: the newest events of a step reach as late as any choice of events can.
-/

set_option autoImplicit false

namespace WolandGuard.Detection

open Foundations JsonValue

/-! ## The conditions -/

/-- The events that the history query returns for a trigger. -/
def relevant (rule : RuleDefinition) (trigger event : NormalizedEventV1) : Bool :=
  (historyQuery rule.condition).any fun (eventTypes, window) =>
    eventTypes.contains event.eventType &&
      (trigger.occurredAt - seconds window ≤ event.occurredAt &&
        event.occurredAt ≤ trigger.occurredAt)

/-- An event that counts towards a threshold. -/
def thresholdCounts (condition : ThresholdCondition) (group : List String)
    (event : NormalizedEventV1) : Bool :=
  matchesEvent event condition.toEventCondition &&
    fieldGroup event condition.groupBy == some group

def ThresholdFires (condition : ThresholdCondition) (trigger : NormalizedEventV1)
    (recent : List NormalizedEventV1) : Prop :=
  ∃ group, fieldGroup trigger condition.groupBy = some group ∧
    condition.threshold ≤ recent.countP (thresholdCounts condition group)

/-- The text of the distinct field of an event that counts. -/
def distinctText (condition : DistinctCountCondition) (group : List String)
    (event : NormalizedEventV1) : Option String :=
  if matchesEvent event condition.toEventCondition &&
      fieldGroup event condition.groupBy == some group then
    (fieldValue event condition.distinctField).map canonicalValue
  else none

def DistinctFires (condition : DistinctCountCondition) (trigger : NormalizedEventV1)
    (recent : List NormalizedEventV1) : Prop :=
  ∃ group, fieldGroup trigger condition.groupBy = some group ∧
    condition.minimumEvents ≤ (recent.filterMap (distinctText condition group)).length ∧
    condition.distinctThreshold ≤ (recent.filterMap (distinctText condition group)).dedup.length

/-- An event of a step between two bounds. -/
def between (step : SequenceStep) (bound upperBound : Int) (event : NormalizedEventV1) : Bool :=
  matchesEvent event step.toEventCondition && event.occurredAt < upperBound &&
    bound ≤ event.occurredAt

/-- The steps, from the last one back, can be placed before `upperBound`. -/
def StepsFeasible (candidates : List NormalizedEventV1) : List SequenceStep → Int → Prop
  | [], _ => True
  | step :: rest, upperBound =>
      ∃ bound, step.repeatAtLeast ≤ candidates.countP (between step bound upperBound) ∧
        StepsFeasible candidates rest bound

/-- The events with the correlation fields of the trigger. -/
def correlated (rule : RuleDefinition) (trigger event : NormalizedEventV1) : Bool :=
  fieldGroup event rule.correlationFields == fieldGroup trigger rule.correlationFields

def SequenceFires (rule : RuleDefinition) (condition : SequenceCondition)
    (trigger : NormalizedEventV1) (recent : List NormalizedEventV1) : Prop :=
  ∃ bound ≤ trigger.occurredAt,
    condition.lastStep.repeatAtLeast ≤ (recent.filter (correlated rule trigger)).countP
      (between condition.lastStep bound (trigger.occurredAt + 1)) ∧
    StepsFeasible (recent.filter (correlated rule trigger)) condition.steps.reverse.tail bound

/-- A windowed rule fires for a trigger over the events of its window. -/
def WindowFires (rule : RuleDefinition) (trigger : NormalizedEventV1)
    (recent : List NormalizedEventV1) : Prop :=
  match rule.condition with
  | .threshold condition => ThresholdFires condition trigger recent
  | .distinctCount condition => DistinctFires condition trigger recent
  | .sequence condition => SequenceFires rule condition trigger recent
  | .single _ => False
  | .firstSeen _ => False

/-! ## More events never hurt -/

theorem StepsFeasible.mono {fewer more : List NormalizedEventV1} (subset : fewer.Subperm more)
    {steps : List SequenceStep} {lower upper : Int} (higher : lower ≤ upper)
    (feasible : StepsFeasible fewer steps lower) : StepsFeasible more steps upper := by
  induction steps generalizing lower upper with
  | nil => trivial
  | cons step rest ih =>
      obtain ⟨bound, enough, feasible_rest⟩ := feasible
      refine ⟨bound, ?_, ih (Int.le_refl bound) feasible_rest⟩
      calc step.repeatAtLeast
          ≤ fewer.countP (between step bound lower) := enough
        _ ≤ more.countP (between step bound lower) := subset.countP_le _
        _ ≤ more.countP (between step bound upper) := by
            refine List.countP_mono_left fun event _ holds => ?_
            simp only [between, Bool.and_eq_true, decide_eq_true_eq] at holds ⊢
            exact ⟨⟨holds.1.1, Int.lt_of_lt_of_le holds.1.2 higher⟩, holds.2⟩

/-- **A windowed rule that fires still fires when more events are there.** -/
theorem WindowFires.mono {rule : RuleDefinition} {trigger : NormalizedEventV1}
    {fewer more : List NormalizedEventV1} (subset : fewer.Subperm more)
    (fires : WindowFires rule trigger fewer) : WindowFires rule trigger more := by
  unfold WindowFires at fires ⊢
  split at fires
  next condition _ =>
    obtain ⟨group, same, enough⟩ := fires
    exact ⟨group, same, enough.trans (subset.countP_le _)⟩
  next condition _ =>
    obtain ⟨group, same, enough, distinct⟩ := fires
    have texts := subperm_filterMap (distinctText condition group) subset
    exact ⟨group, same, enough.trans texts.length_le,
      distinct.trans (dedup_length_le texts.subset)⟩
  next condition _ =>
    obtain ⟨bound, earlier, enough, feasible⟩ := fires
    have candidates := subset.filter (correlated rule trigger)
    exact ⟨bound, earlier, enough.trans (candidates.countP_le _),
      feasible.mono candidates (Int.le_refl bound)⟩
  · exact fires
  · exact fires

/-! ## The greedy choice -/

theorem newestFirst_perm (events : List Event) : (newestFirst events).Perm events :=
  List.perm_insertionSort _ events

theorem newestFirst_descending (events : List Event) :
    (newestFirst events).Pairwise fun left right => right.occurredAt ≤ left.occurredAt := by
  let newer : Event → Event → Bool := fun left right => Event.order right left
  have total : ∀ left right, newer left right = true ∨ newer right left = true :=
    fun left right => keyLe_total right.key left.key
  have transitive : ∀ first second third, newer first second = true →
      newer second third = true → newer first third = true :=
    fun _ _ _ left right => keyLe_trans right left
  exact (insertionSort_pairwise total transitive events).imp fun before => keyLe_time before

/-- A bound lies at or before the earliest chosen event. -/
theorem le_earliest_iff {chosen : List Event} (nonempty : chosen ≠ []) (default bound : Int) :
    bound ≤ earliest chosen default ↔ ∀ event ∈ chosen, bound ≤ event.occurredAt := by
  unfold earliest
  cases least : (chosen.map Event.occurredAt).min? with
  | none => simp [nonempty] at least
  | some time =>
      rw [Option.getD_some, List.le_min?_iff least]
      simp

theorem earliest_le {chosen : List Event} {event : Event} (member : event ∈ chosen)
    (default : Int) : earliest chosen default ≤ event.occurredAt :=
  (le_earliest_iff (List.ne_nil_of_mem member) default _).mp (Int.le_refl _) event member

/-- **The newest events of a step reach down to a bound exactly when enough
events of the step lie above it.** -/
theorem newest_reach_iff {events : List Event} {count : Nat} (enough : count ≤ events.length)
    (bound : Int) :
    (∀ event ∈ (newestFirst events).take count, bound ≤ event.occurredAt) ↔
      count ≤ events.countP fun event => bound ≤ event.occurredAt := by
  have perm := newestFirst_perm events
  rw [forall_mem_take_iff bound (newestFirst_descending events) (by rwa [perm.length_eq]),
    perm.countP_eq]

theorem newest_length {events : List Event} {count : Nat} :
    ((newestFirst events).take count).length < count ↔ events.length < count := by
  rw [List.length_take, (newestFirst_perm events).length_eq]
  omega

theorem stepCandidates_countP (events : List Event) (step : SequenceStep)
    (bound upperBound : Int) :
    (events.map Event.normalized).countP (between step bound upperBound) =
      (stepCandidates events step upperBound).countP fun event => bound ≤ event.occurredAt := by
  rw [stepCandidates, List.countP_map, List.countP_filter]
  refine List.countP_congr fun event _ => ?_
  simp only [between, Function.comp_apply, Bool.and_eq_true, decide_eq_true_eq]
  tauto

/-- **The greedy loop finds events for the steps exactly when they can be
placed.** -/
theorem chooseSteps_isSome (events : List Event) (steps : List SequenceStep) (upperBound : Int) :
    (chooseSteps events steps upperBound).isSome = true ↔
      StepsFeasible (events.map Event.normalized) steps upperBound := by
  induction steps generalizing upperBound with
  | nil => simp [chooseSteps, StepsFeasible]
  | cons step rest ih =>
      have positive := step.repeatAtLeast_pos
      simp only [chooseSteps, StepsFeasible, stepCandidates_countP]
      generalize stepCandidates events step upperBound = events_of_step
      split
      next short =>
        rw [newest_length] at short
        simp only [Option.isSome_none, Bool.false_eq_true, false_iff, not_exists, not_and]
        exact fun bound enough => absurd (enough.trans List.countP_le_length) (by omega)
      next long =>
        rw [newest_length] at long
        have enough : step.repeatAtLeast ≤ events_of_step.length := by omega
        have nonempty : (newestFirst events_of_step).take step.repeatAtLeast ≠ [] := by
          intro empty
          have length := congrArg List.length empty
          rw [List.length_take, (newestFirst_perm _).length_eq, List.length_nil] at length
          omega
        rw [Option.isSome_map, ih]
        constructor
        · intro feasible
          refine ⟨_, ?_, feasible⟩
          rw [← newest_reach_iff enough, ← le_earliest_iff nonempty upperBound]
        · rintro ⟨bound, reached, feasible⟩
          rw [← newest_reach_iff enough, ← le_earliest_iff nonempty upperBound] at reached
          exact feasible.mono (List.Subperm.refl _) reached

/-! ## The evaluators -/

section Evaluators

variable {trigger : Event} {history : List Event} {correlation : Correlation}

theorem thresholdEvidence_eq {condition : ThresholdCondition} {group : List String}
    (window : ∀ event ∈ history,
      inWindow (trigger.occurredAt - seconds condition.windowSeconds) trigger.occurredAt event =
        true) :
    thresholdEvidence condition trigger group history =
      history.filter fun event => thresholdCounts condition group event.normalized := by
  refine List.filter_congr fun event member => ?_
  rw [window event member, Bool.true_and]
  rfl

theorem evaluateThreshold_isSome {condition : ThresholdCondition}
    (window : ∀ event ∈ history,
      inWindow (trigger.occurredAt - seconds condition.windowSeconds) trigger.occurredAt event =
        true) :
    (evaluateThreshold condition trigger history correlation).isSome = true ↔
      ThresholdFires condition trigger.normalized (history.map Event.normalized) := by
  unfold evaluateThreshold ThresholdFires
  cases fieldGroup trigger.normalized condition.groupBy with
  | none => simp
  | some group =>
      have counted : (thresholdEvidence condition trigger group history).length =
          (history.map Event.normalized).countP (thresholdCounts condition group) := by
        rw [thresholdEvidence_eq window, List.countP_map, List.countP_eq_length_filter]
        rfl
      simp [counted]

theorem distinctEvidence_texts {condition : DistinctCountCondition} {group : List String}
    (window : ∀ event ∈ history,
      inWindow (trigger.occurredAt - seconds condition.windowSeconds) trigger.occurredAt event =
        true) :
    (distinctEvidence condition trigger group history).filterMap (distinctValue condition) =
      (history.map Event.normalized).filterMap (distinctText condition group) := by
  rw [distinctEvidence, List.filterMap_filter, List.filterMap_map]
  refine List.filterMap_congr fun event member => ?_
  simp only [window event member, Bool.true_and, Function.comp_apply, distinctText, distinctValue]
  cases matchesEvent event.normalized condition.toEventCondition &&
      fieldGroup event.normalized condition.groupBy == some group with
  | false => simp
  | true => cases fieldValue event.normalized condition.distinctField <;> simp

/-- Every event of the evidence has a value. -/
theorem distinctEvidence_length (condition : DistinctCountCondition) (trigger : Event)
    (group : List String) (history : List Event) :
    ((distinctEvidence condition trigger group history).filterMap
      (distinctValue condition)).length =
        (distinctEvidence condition trigger group history).length := by
  rw [List.filterMap_length_eq_length]
  intro event member
  have holds := (List.mem_filter.mp member).2
  simp only [Bool.and_eq_true] at holds
  exact holds.2

theorem evaluateDistinct_isSome {condition : DistinctCountCondition}
    (window : ∀ event ∈ history,
      inWindow (trigger.occurredAt - seconds condition.windowSeconds) trigger.occurredAt event =
        true) :
    (evaluateDistinct condition trigger history correlation).isSome = true ↔
      DistinctFires condition trigger.normalized (history.map Event.normalized) := by
  unfold evaluateDistinct DistinctFires
  cases fieldGroup trigger.normalized condition.groupBy with
  | none => simp
  | some group =>
      have length := distinctEvidence_length condition trigger group history
      rw [distinctEvidence_texts window] at length
      simp [← length, distinctEvidence_texts window]

/-- The candidates of the last step without the trigger. -/
theorem countP_without_trigger {items : List Event} (member : trigger ∈ items)
    (unique : (items.map Event.id).Nodup) {p : Event → Bool} (holds : p trigger = true) :
    items.countP p = (items.filter (·.id ≠ trigger.id)).countP p + 1 := by
  induction items with
  | nil => cases member
  | cons head tail ih =>
      obtain ⟨fresh, unique_tail⟩ := List.nodup_cons.mp unique
      rcases List.mem_cons.mp member with rfl | rest
      · have others : tail.filter (·.id ≠ trigger.id) = tail := by
          refine List.filter_eq_self.mpr fun event event_member => decide_eq_true fun same => ?_
          exact fresh (same ▸ List.mem_map_of_mem event_member)
        rw [List.countP_cons_of_pos holds, List.filter_cons_of_neg (by simp), others]
      · have different : head.id ≠ trigger.id := fun same =>
          fresh (same ▸ List.mem_map_of_mem rest)
        rw [List.filter_cons_of_pos (by simpa using different), List.countP_cons, List.countP_cons,
          ih rest unique_tail]
        omega

theorem lastCandidates_countP (candidates : List Event) (step : SequenceStep) (bound : Int) :
    (candidates.map Event.normalized).countP (between step bound (trigger.occurredAt + 1)) =
      (lastCandidates candidates step trigger).countP fun event => bound ≤ event.occurredAt := by
  rw [lastCandidates, List.countP_map, List.countP_filter]
  refine List.countP_congr fun event _ => ?_
  simp only [between, Function.comp_apply, Bool.and_eq_true, decide_eq_true_eq, Int.lt_add_one_iff]
  tauto

theorem sequenceCandidates_map {rule : RuleDefinition} {condition : SequenceCondition}
    (window : ∀ event ∈ history,
      inWindow (trigger.occurredAt - seconds condition.windowSeconds) trigger.occurredAt event =
        true) :
    (sequenceCandidates rule condition trigger history).map Event.normalized =
      (history.map Event.normalized).filter (correlated rule trigger.normalized) := by
  rw [List.filter_map, sequenceCandidates]
  refine congrArg _ (List.filter_congr fun event member => ?_)
  rw [window event member, Bool.true_and]
  rfl

/-- The choice for the last step reaches down to a bound exactly when enough
events of the step lie above it. -/
theorem ending_reach_iff {ending : List Event} {count : Nat} (member : trigger ∈ ending)
    (unique : (ending.map Event.id).Nodup) (positive : 0 < count)
    (enough : count - 1 ≤ (ending.filter (·.id ≠ trigger.id)).length) (bound : Int) :
    bound ≤ earliest (trigger :: (newestFirst (ending.filter (·.id ≠ trigger.id))).take (count - 1))
        trigger.occurredAt ↔
      bound ≤ trigger.occurredAt ∧ count ≤ ending.countP fun event => bound ≤ event.occurredAt := by
  rw [le_earliest_iff (List.cons_ne_nil _ _), List.forall_mem_cons, newest_reach_iff enough]
  refine and_congr_right fun reached => ?_
  rw [countP_without_trigger (p := fun event => bound ≤ event.occurredAt) member unique
    (decide_eq_true reached)]
  omega

/-- **The greedy sequence evaluator matches exactly when the steps can be
placed.** -/
theorem evaluateSequence_isSome {rule : RuleDefinition} {condition : SequenceCondition}
    (window : ∀ event ∈ history,
      inWindow (trigger.occurredAt - seconds condition.windowSeconds) trigger.occurredAt event =
        true)
    (member : trigger ∈ history) (unique : (history.map Event.id).Nodup)
    (completes : matchesEvent trigger.normalized condition.lastStep.toEventCondition = true) :
    (evaluateSequence rule condition trigger history correlation).isSome = true ↔
      SequenceFires rule condition trigger.normalized (history.map Event.normalized) := by
  have positive := condition.lastStep.repeatAtLeast_pos
  have in_candidates : trigger ∈ sequenceCandidates rule condition trigger history :=
    List.mem_filter.mpr ⟨member, by simp [window trigger member]⟩
  have ending_member : trigger ∈ lastCandidates (sequenceCandidates rule condition trigger history)
      condition.lastStep trigger := List.mem_filter.mpr ⟨in_candidates, by simp [completes]⟩
  have ending_unique : ((lastCandidates (sequenceCandidates rule condition trigger history)
      condition.lastStep trigger).map Event.id).Nodup :=
    unique.sublist ((List.filter_sublist.trans List.filter_sublist).map Event.id)
  have found : (lastCandidates (sequenceCandidates rule condition trigger history)
      condition.lastStep trigger).any (·.id = trigger.id) = true :=
    List.any_eq_true.mpr ⟨trigger, ending_member, by simp⟩
  unfold evaluateSequence SequenceFires
  simp only [found, Bool.not_true, Bool.false_eq_true, if_false, ← sequenceCandidates_map window,
    lastCandidates_countP]
  generalize lastCandidates (sequenceCandidates rule condition trigger history) condition.lastStep
    trigger = ending at ending_member ending_unique
  have whole := countP_without_trigger (p := fun _ => true) ending_member ending_unique rfl
  simp only [List.countP_true] at whole
  rw [List.length_cons, List.length_take, (newestFirst_perm _).length_eq]
  split
  next short =>
    simp only [Option.isSome_none, Bool.false_eq_true, false_iff, not_exists, not_and]
    intro bound _ enough
    exact absurd (enough.trans List.countP_le_length) (by omega)
  next long =>
    have enough : condition.lastStep.repeatAtLeast - 1 ≤
        (ending.filter (·.id ≠ trigger.id)).length := by omega
    have reach := ending_reach_iff ending_member ending_unique positive enough
    rw [Option.isSome_map, chooseSteps_isSome]
    constructor
    · intro feasible
      obtain ⟨earlier, counted⟩ := (reach _).mp (Int.le_refl _)
      exact ⟨_, earlier, counted, feasible⟩
    · rintro ⟨bound, earlier, counted, feasible⟩
      exact feasible.mono (List.Subperm.refl _) ((reach bound).mpr ⟨earlier, counted⟩)

end Evaluators

/-! ## The history query -/

/-- The normalized events stored for a server. -/
def serverEvents (events : List Event) (serverId : Uuid) : List NormalizedEventV1 :=
  (events.filter (·.serverId = serverId)).map Event.normalized

section History

variable {rule : RuleDefinition} {trigger : Event} {events : List Event}

/-- What the history query selects. -/
theorem mem_loadHistory {eventTypes : List String} {window : Nat}
    (query : historyQuery rule.condition = some (eventTypes, window)) {event : Event} :
    event ∈ loadHistory events rule trigger ↔
      event ∈ events ∧ event.serverId = trigger.serverId ∧ event.eventType ∈ eventTypes ∧
        inWindow (trigger.occurredAt - seconds window) trigger.occurredAt event = true := by
  simp only [loadHistory, query]
  rw [(List.perm_insertionSort _ _).mem_iff]
  simp [and_assoc]

/-- The events a rule is evaluated on. -/
theorem loadHistory_perm {eventTypes : List String} {window : Nat}
    (query : historyQuery rule.condition = some (eventTypes, window)) :
    ((loadHistory events rule trigger).filter (·.serverId = trigger.serverId)).Perm
      ((events.filter (·.serverId = trigger.serverId)).filter fun event =>
        relevant rule trigger.normalized event.normalized) := by
  have all_same : (loadHistory events rule trigger).filter (·.serverId = trigger.serverId) =
      loadHistory events rule trigger := by
    refine List.filter_eq_self.mpr fun event member => decide_eq_true ?_
    exact ((mem_loadHistory query).mp member).2.1
  rw [all_same]
  simp only [loadHistory, query]
  refine (List.perm_insertionSort _ _).trans ?_
  rw [List.filter_filter]
  refine List.Perm.of_eq (List.filter_congr fun event _ => ?_)
  simp only [relevant, query, Option.any_some, inWindow, Bool.and_assoc]
  rw [Bool.and_comm, Bool.and_assoc, Bool.and_assoc]

theorem loadHistory_normalized {eventTypes : List String} {window : Nat}
    (query : historyQuery rule.condition = some (eventTypes, window)) :
    (((loadHistory events rule trigger).filter (·.serverId = trigger.serverId)).map
        Event.normalized).Perm
      ((serverEvents events trigger.serverId).filter (relevant rule trigger.normalized)) := by
  rw [serverEvents, List.filter_map]
  exact (loadHistory_perm query).map Event.normalized

theorem WindowFires.perm_iff {fewer more : List NormalizedEventV1} (perm : fewer.Perm more)
    (trigger : NormalizedEventV1) :
    WindowFires rule trigger fewer ↔ WindowFires rule trigger more :=
  ⟨.mono perm.subperm, .mono perm.symm.subperm⟩

end History

/-- The evaluators of windowed rules match exactly when the rule fires. -/
theorem evaluateCondition_isSome {rule : RuleDefinition} {trigger : Event} {history : List Event}
    (correlation : Correlation) (windowed : rule.condition.isWindowed = true)
    {eventTypes : List String} {window : Nat}
    (query : historyQuery rule.condition = some (eventTypes, window))
    (in_window : ∀ event ∈ history,
      inWindow (trigger.occurredAt - seconds window) trigger.occurredAt event = true)
    (member : trigger ∈ history) (unique : (history.map Event.id).Nodup)
    (triggers : canTrigger rule trigger.normalized = true) :
    (evaluateCondition rule trigger history correlation).isSome = true ↔
      WindowFires rule trigger.normalized (history.map Event.normalized) := by
  unfold canTrigger at triggers
  cases shape : rule.condition with
  | single condition => simp [shape, Condition.isWindowed] at windowed
  | firstSeen condition => simp [shape, Condition.isWindowed] at windowed
  | threshold condition =>
      simp only [shape, historyQuery, Option.some.injEq, Prod.mk.injEq] at query
      obtain ⟨_, rfl⟩ := query
      simp only [evaluateCondition, WindowFires, shape]
      exact evaluateThreshold_isSome in_window
  | distinctCount condition =>
      simp only [shape, historyQuery, Option.some.injEq, Prod.mk.injEq] at query
      obtain ⟨_, rfl⟩ := query
      simp only [evaluateCondition, WindowFires, shape]
      exact evaluateDistinct_isSome in_window
  | sequence condition =>
      simp only [shape, historyQuery, Option.some.injEq, Prod.mk.injEq] at query
      obtain ⟨_, rfl⟩ := query
      simp only [shape, triggerCondition] at triggers
      simp only [evaluateCondition, WindowFires, shape]
      exact evaluateSequence_isSome in_window member unique triggers

/-- The trigger is among the events that the history query returns. -/
theorem trigger_mem_loadHistory {rule : RuleDefinition} {trigger : Event} {events : List Event}
    (member : trigger ∈ events) (triggers : canTrigger rule trigger.normalized = true)
    {eventTypes : List String} {window : Nat}
    (query : historyQuery rule.condition = some (eventTypes, window)) :
    trigger ∈ loadHistory events rule trigger := by
  have type_queried : trigger.eventType ∈ eventTypes := by
    unfold canTrigger matchesEvent at triggers
    simp only [Bool.and_eq_true, beq_iff_eq] at triggers
    rw [Event.eventType, triggers.1]
    cases shape : rule.condition with
    | single condition => simp [historyQuery, shape] at query
    | sequence condition =>
        simp only [historyQuery, shape, Option.some.injEq, Prod.mk.injEq] at query
        rw [← query.1]
        exact List.mem_map_of_mem (List.getLast_mem condition.steps_nonempty)
    | threshold condition =>
        simp only [historyQuery, shape, Option.some.injEq, Prod.mk.injEq] at query
        simp [triggerCondition, ← query.1]
    | distinctCount condition =>
        simp only [historyQuery, shape, Option.some.injEq, Prod.mk.injEq] at query
        simp [triggerCondition, ← query.1]
    | firstSeen condition =>
        simp only [historyQuery, shape, Option.some.injEq, Prod.mk.injEq] at query
        simp [triggerCondition, ← query.1]
  refine (mem_loadHistory query).mpr ⟨member, rfl, type_queried, ?_⟩
  have nonneg := seconds_nonneg window
  simp only [inWindow, Bool.and_eq_true, decide_eq_true_eq]
  omega

/-- An event completes a match of a rule over the stored events of its server,
in the group with the given hash. -/
structure Completes (rule : RuleDefinition) (trigger : NormalizedEventV1)
    (stored : List NormalizedEventV1) (hash : String) : Prop where
  enabled : rule.enabled = true
  triggers : canTrigger rule trigger = true
  correlation : ∃ correlation, correlationOf rule trigger = some correlation ∧
    correlationHash correlation = hash
  fires : WindowFires rule trigger (stored.filter (relevant rule trigger))

theorem Condition.query_of_windowed {condition : Condition}
    (windowed : condition.isWindowed = true) :
    ∃ eventTypes window, historyQuery condition = some (eventTypes, window) := by
  cases condition <;> simp [historyQuery, Condition.isWindowed] at windowed ⊢

/-- **The engine matches a windowed rule exactly when it fires** over the
stored events of the server. -/
theorem evaluateRule_isSome {rule : RuleDefinition} {trigger : Event} {events : List Event}
    (windowed : rule.condition.isWindowed = true) (member : trigger ∈ events)
    (unique : (events.map Event.id).Nodup)
    (triggers : canTrigger rule trigger.normalized = true) {correlation : Correlation}
    (correlates : correlationOf rule trigger.normalized = some correlation) :
    (evaluateRule rule trigger (loadHistory events rule trigger)).isSome = true ↔
      Completes rule trigger.normalized (serverEvents events trigger.serverId)
        (correlationHash correlation) := by
  obtain ⟨eventTypes, window, query⟩ := Condition.query_of_windowed windowed
  have in_history := trigger_mem_loadHistory member triggers query
  have history_perm : ((loadHistory events rule trigger).filter
      (·.serverId = trigger.serverId)).Perm _ := loadHistory_perm query
  have history_unique := history_perm.map Event.id |>.nodup_iff.mpr
    (unique.sublist ((List.filter_sublist.trans List.filter_sublist).map Event.id))
  have fires := evaluateCondition_isSome correlation windowed query
    (fun event event_member =>
      ((mem_loadHistory query).mp (List.mem_of_mem_filter event_member)).2.2.2)
    (List.mem_filter.mpr ⟨in_history, by simp⟩) history_unique triggers
  rw [WindowFires.perm_iff (loadHistory_normalized query)] at fires
  unfold evaluateRule
  cases enabled : rule.enabled with
  | false =>
      simp only [Bool.not_false, Bool.true_or, if_true, Option.isSome_none, Bool.false_eq_true,
        false_iff]
      exact fun completes => absurd completes.enabled (by simp [enabled])
  | true =>
      simp only [triggers, correlates, Bool.not_true, Bool.or_self, Bool.false_eq_true, if_false]
      rw [fires]
      exact ⟨fun holds => ⟨enabled, triggers, ⟨_, correlates, rfl⟩, holds⟩, fun holds => holds.fires⟩

/-- A threshold rule completes a match when enough events that count are
stored in the window that ends at the trigger. -/
theorem Completes.of_threshold {rule : RuleDefinition} {condition : ThresholdCondition}
    {last : NormalizedEventV1} {stored : List NormalizedEventV1} {group : List String}
    {correlation : Correlation} (shape : rule.condition = .threshold condition)
    (enabled : rule.enabled = true) (counts : thresholdCounts condition group last = true)
    (correlates : correlationOf rule last = some correlation)
    (enough : condition.threshold ≤ stored.countP fun event =>
      (last.occurredAt - seconds condition.windowSeconds ≤ event.occurredAt &&
        event.occurredAt ≤ last.occurredAt) && thresholdCounts condition group event) :
    Completes rule last stored (correlationHash correlation) := by
  simp only [thresholdCounts, Bool.and_eq_true, beq_iff_eq] at counts
  refine ⟨enabled, by rw [canTrigger, shape]; exact counts.1, ⟨correlation, correlates, rfl⟩, ?_⟩
  simp only [WindowFires, shape]
  refine ⟨group, counts.2, enough.trans ?_⟩
  rw [List.countP_filter]
  refine List.countP_mono_left fun event _ holds => ?_
  simp only [Bool.and_eq_true, decide_eq_true_eq, thresholdCounts, matchesEvent, beq_iff_eq] at holds
  obtain ⟨⟨after, before⟩, ⟨same_type, filters⟩, same_group⟩ := holds
  simp [relevant, shape, historyQuery, thresholdCounts, matchesEvent, before, same_type, filters,
    same_group]
  omega

end WolandGuard.Detection
