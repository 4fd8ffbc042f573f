import WolandGuard.Detection.Fields

/-!
# Evaluating one rule

`evaluate_rule` and its evaluators. Each takes the trigger and an explicit
history and returns the evidence of a match. The sequence evaluator is greedy:
it goes through the steps from the last to the first and takes for each the
newest candidates that lie strictly before all events taken so far.
-/

set_option autoImplicit false

namespace WolandGuard.Detection

open JsonValue

structure DetectionMatch where
  correlation : Correlation
  evidence : List Event

/-- `_unique_events`. -/
def uniqueEvents (events : List Event) : List Event :=
  (events.pwFilter (·.id ≠ ·.id)).insertionSort (Event.order · ·)

/-- `start <= event.occurred_at <= stop`. -/
def inWindow (start stop : Int) (event : Event) : Bool :=
  start ≤ event.occurredAt && event.occurredAt ≤ stop

/-! ## Counting -/

/-- The evidence of a threshold: the events of the window that match and
share the group. -/
def thresholdEvidence (condition : ThresholdCondition) (trigger : Event) (group : List String)
    (history : List Event) : List Event :=
  let start := trigger.occurredAt - seconds condition.windowSeconds
  history.filter fun event =>
    inWindow start trigger.occurredAt event &&
      matchesEvent event.normalized condition.toEventCondition &&
      fieldGroup event.normalized condition.groupBy == some group

/-- `_evaluate_threshold`. -/
def evaluateThreshold (condition : ThresholdCondition) (trigger : Event) (history : List Event)
    (correlation : Correlation) : Option DetectionMatch :=
  match fieldGroup trigger.normalized condition.groupBy with
  | none => none
  | some group =>
      let evidence := thresholdEvidence condition trigger group history
      if evidence.length < condition.threshold then none
      else some ⟨correlation, uniqueEvents evidence⟩

/-- The text of the distinct field. -/
def distinctValue (condition : DistinctCountCondition) (event : Event) : Option String :=
  (fieldValue event.normalized condition.distinctField).map canonicalValue

def distinctEvidence (condition : DistinctCountCondition) (trigger : Event) (group : List String)
    (history : List Event) : List Event :=
  let start := trigger.occurredAt - seconds condition.windowSeconds
  history.filter fun event =>
    inWindow start trigger.occurredAt event &&
      matchesEvent event.normalized condition.toEventCondition &&
      fieldGroup event.normalized condition.groupBy == some group &&
      (distinctValue condition event).isSome

/-- `_evaluate_distinct`. -/
def evaluateDistinct (condition : DistinctCountCondition) (trigger : Event) (history : List Event)
    (correlation : Correlation) : Option DetectionMatch :=
  match fieldGroup trigger.normalized condition.groupBy with
  | none => none
  | some group =>
      let evidence := distinctEvidence condition trigger group history
      let distinctValues := (evidence.filterMap (distinctValue condition)).dedup
      if evidence.length < condition.minimumEvents ∨
          distinctValues.length < condition.distinctThreshold then none
      else some ⟨correlation, uniqueEvents evidence⟩

/-! ## Sequences -/

/-- `sorted(..., key=lambda event: (event.occurred_at, event.id), reverse=True)`. -/
def newestFirst (events : List Event) : List Event :=
  events.insertionSort fun left right => right.order left

/-- `min(event.occurred_at for event in chosen)`. -/
def earliest (chosen : List Event) (bound : Int) : Int :=
  (chosen.map Event.occurredAt).min?.getD bound

/-- The events of a step strictly before a bound. -/
def stepCandidates (candidates : List Event) (step : SequenceStep) (upperBound : Int) :
    List Event :=
  candidates.filter fun event =>
    matchesEvent event.normalized step.toEventCondition && event.occurredAt < upperBound

/-- The loop over the steps before the last one, from the end. -/
def chooseSteps (candidates : List Event) : List SequenceStep → Int → Option (List Event)
  | [], _ => some []
  | step :: rest, upperBound =>
      let chosen := (newestFirst (stepCandidates candidates step upperBound)).take
        step.repeatAtLeast
      if chosen.length < step.repeatAtLeast then none
      else (chooseSteps candidates rest (earliest chosen upperBound)).map (chosen ++ ·)

/-- The events of the window that share the correlation fields. -/
def sequenceCandidates (rule : RuleDefinition) (condition : SequenceCondition) (trigger : Event)
    (history : List Event) : List Event :=
  let start := trigger.occurredAt - seconds condition.windowSeconds
  history.filter fun event =>
    inWindow start trigger.occurredAt event &&
      fieldGroup event.normalized rule.correlationFields ==
        fieldGroup trigger.normalized rule.correlationFields

/-- The candidates for the last step, the trigger among them. -/
def lastCandidates (candidates : List Event) (step : SequenceStep) (trigger : Event) :
    List Event :=
  candidates.filter fun event =>
    matchesEvent event.normalized step.toEventCondition && event.occurredAt ≤ trigger.occurredAt

/-- `_evaluate_sequence`. -/
def evaluateSequence (rule : RuleDefinition) (condition : SequenceCondition) (trigger : Event)
    (history : List Event) (correlation : Correlation) : Option DetectionMatch :=
  let candidates := sequenceCandidates rule condition trigger history
  let step := condition.lastStep
  let ending := lastCandidates candidates step trigger
  if !ending.any (·.id = trigger.id) then none
  else
    let remaining := ending.filter (·.id ≠ trigger.id)
    let chosen := trigger :: (newestFirst remaining).take (step.repeatAtLeast - 1)
    if chosen.length < step.repeatAtLeast then none
    else
      (chooseSteps candidates condition.steps.reverse.tail
        (earliest chosen trigger.occurredAt)).map fun earlier =>
          ⟨correlation, uniqueEvents (chosen ++ earlier)⟩

/-! ## First seen -/

/-- The text of the value field. -/
def seenValue (condition : FirstSeenCondition) (event : Event) : Option String :=
  (fieldValue event.normalized condition.valueField).map canonicalValue

def firstSeenBaseline (condition : FirstSeenCondition) (trigger : Event) (scope : List String)
    (history : List Event) : List Event :=
  let start := trigger.occurredAt - seconds condition.lookbackSeconds
  history.filter fun event =>
    event.id ≠ trigger.id &&
      inWindow start trigger.occurredAt event &&
      matchesEvent event.normalized condition.toEventCondition &&
      fieldGroup event.normalized condition.scopeFields == some scope

/-- `_evaluate_first_seen`. -/
def evaluateFirstSeen (condition : FirstSeenCondition) (trigger : Event) (history : List Event)
    (correlation : Correlation) : Option DetectionMatch :=
  match seenValue condition trigger, fieldGroup trigger.normalized condition.scopeFields with
  | some current, some scope =>
      let baseline := firstSeenBaseline condition trigger scope history
      if baseline.length < condition.requirePriorBaselineEvents then none
      else if baseline.any fun event => seenValue condition event == some current then none
      else some ⟨correlation, uniqueEvents (baseline ++ [trigger])⟩
  | _, _ => none

/-! ## Any rule -/

/-- The evaluator of a condition. -/
def evaluateCondition (rule : RuleDefinition) (trigger : Event) (history : List Event)
    (correlation : Correlation) : Option DetectionMatch :=
  match rule.condition with
  | .single _ => some ⟨correlation, [trigger]⟩
  | .threshold condition => evaluateThreshold condition trigger history correlation
  | .distinctCount condition => evaluateDistinct condition trigger history correlation
  | .sequence condition => evaluateSequence rule condition trigger history correlation
  | .firstSeen condition => evaluateFirstSeen condition trigger history correlation

/-- `evaluate_rule`. -/
def evaluateRule (rule : RuleDefinition) (trigger : Event) (history : List Event) :
    Option DetectionMatch :=
  if !rule.enabled || !canTrigger rule trigger.normalized then none
  else
    match correlationOf rule trigger.normalized with
    | none => none
    | some correlation =>
        evaluateCondition rule trigger (history.filter (·.serverId = trigger.serverId)) correlation

/-- The event types and the window of the history query, for the conditions
that have one. -/
def historyQuery : Condition → Option (List String × Nat)
  | .single _ => none
  | .threshold condition => some ([condition.eventType.value], condition.windowSeconds)
  | .distinctCount condition => some ([condition.eventType.value], condition.windowSeconds)
  | .sequence condition =>
      some (condition.steps.map (·.eventType.value), condition.windowSeconds)
  | .firstSeen condition => some ([condition.eventType.value], condition.lookbackSeconds)

/-- The earliest instant a `datetime` can hold. -/
def datetimeMin : Int := -62135596800000000

/-- The start of the window, which raises `OverflowError` before year 1. -/
def windowStart (rule : RuleDefinition) (trigger : Event) : Option Int :=
  match historyQuery rule.condition with
  | none => some trigger.occurredAt
  | some (_, window) =>
      let start := trigger.occurredAt - seconds window
      if start < datetimeMin then none else some start

/-- `_load_history`, over the events that the transaction sees. -/
def loadHistory (events : List Event) (rule : RuleDefinition) (trigger : Event) : List Event :=
  match historyQuery rule.condition with
  | none => [trigger]
  | some (eventTypes, window) =>
      let start := trigger.occurredAt - seconds window
      (events.filter fun event =>
        event.serverId = trigger.serverId && eventTypes.contains event.eventType &&
          inWindow start trigger.occurredAt event).insertionSort (Event.order · ·)

end WolandGuard.Detection
