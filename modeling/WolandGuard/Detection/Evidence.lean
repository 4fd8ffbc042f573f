import WolandGuard.Detection.Evaluate

/-!
# Evidence

Whatever the condition of a rule, the evidence of a match is a list of events
without repetition, not empty, and made of the trigger and events of the
history (`evaluateRule_evidence`).
-/

set_option autoImplicit false

namespace WolandGuard.Detection

/-- Evidence: some events without repetition, all of them the trigger or in the
history. -/
structure IsEvidence (trigger : Event) (history evidence : List Event) : Prop where
  nonempty : evidence ≠ []
  unique : (evidence.map Event.id).Nodup
  known : ∀ event ∈ evidence, event = trigger ∨ event ∈ history

theorem uniqueEvents_nodup (events : List Event) : ((uniqueEvents events).map Event.id).Nodup := by
  have perm := (List.perm_insertionSort (Event.order · ·)
    (events.pwFilter (·.id ≠ ·.id))).map Event.id
  refine perm.nodup_iff.mpr (List.pairwise_map.mpr ?_)
  exact List.pairwise_pwFilter events

theorem mem_uniqueEvents {events : List Event} {event : Event}
    (member : event ∈ uniqueEvents events) : event ∈ events :=
  List.pwFilter_subset events ((List.perm_insertionSort _ _).mem_iff.mp member)

theorem uniqueEvents_nonempty {events : List Event} (nonempty : events ≠ []) :
    uniqueEvents events ≠ [] := by
  have filtered : events.pwFilter (·.id ≠ ·.id) ≠ [] := by
    cases events with
    | nil => exact absurd rfl nonempty
    | cons head tail =>
        by_cases new : ∀ event ∈ tail.pwFilter (·.id ≠ ·.id), head.id ≠ event.id
        · rw [List.pwFilter_cons_of_pos new]
          exact List.cons_ne_nil _ _
        · rw [List.pwFilter_cons_of_neg new]
          intro empty
          exact new (by simp [empty])
  intro empty
  have perm := List.perm_insertionSort (Event.order · ·) (events.pwFilter (·.id ≠ ·.id))
  rw [uniqueEvents] at empty
  exact filtered (List.Perm.eq_nil (empty ▸ perm.symm))

/-- Events without repetition, from some that are known. -/
theorem IsEvidence.of_unique {trigger : Event} {history events : List Event}
    (nonempty : events ≠ []) (known : ∀ event ∈ events, event = trigger ∨ event ∈ history) :
    IsEvidence trigger history (uniqueEvents events) where
  nonempty := uniqueEvents_nonempty nonempty
  unique := uniqueEvents_nodup events
  known := fun event member => known event (mem_uniqueEvents member)

theorem evaluateThreshold_evidence {condition : ThresholdCondition} {trigger : Event}
    {history : List Event} {correlation : Correlation} {found : DetectionMatch}
    (matched : evaluateThreshold condition trigger history correlation = some found) :
    IsEvidence trigger history found.evidence := by
  unfold evaluateThreshold at matched
  split at matched
  · cases matched
  next group _ =>
    dsimp only at matched
    split at matched
    · cases matched
    next enough =>
      obtain rfl := Option.some.inj matched
      have positive := condition.threshold_pos
      refine .of_unique (List.ne_nil_of_length_pos (by omega)) fun event member => .inr ?_
      exact List.mem_of_mem_filter member

theorem evaluateDistinct_evidence {condition : DistinctCountCondition} {trigger : Event}
    {history : List Event} {correlation : Correlation} {found : DetectionMatch}
    (matched : evaluateDistinct condition trigger history correlation = some found) :
    IsEvidence trigger history found.evidence := by
  unfold evaluateDistinct at matched
  split at matched
  · cases matched
  next group _ =>
    dsimp only at matched
    split at matched
    · cases matched
    next enough =>
      obtain rfl := Option.some.inj matched
      have positive := condition.minimumEvents_pos
      refine .of_unique (List.ne_nil_of_length_pos (by omega)) fun event member => .inr ?_
      exact List.mem_of_mem_filter member

theorem mem_newestFirst_take {events : List Event} {count : Nat} {event : Event}
    (member : event ∈ (newestFirst events).take count) : event ∈ events :=
  (List.perm_insertionSort _ events).mem_iff.mp (List.mem_of_mem_take member)

/-- The greedy loop takes candidates. -/
theorem chooseSteps_subset {candidates : List Event} {steps : List SequenceStep}
    {upperBound : Int} {chosen : List Event}
    (found : chooseSteps candidates steps upperBound = some chosen) :
    ∀ event ∈ chosen, event ∈ candidates := by
  induction steps generalizing upperBound chosen with
  | nil =>
      obtain rfl := Option.some.inj found
      simp
  | cons step rest ih =>
      unfold chooseSteps at found
      dsimp only at found
      split at found
      · cases found
      obtain ⟨earlier, rest_found, rfl⟩ := Option.map_eq_some_iff.mp found
      intro event member
      rcases List.mem_append.mp member with taken | rest_member
      · exact List.mem_of_mem_filter (mem_newestFirst_take taken)
      · exact ih rest_found event rest_member

theorem evaluateSequence_evidence {rule : RuleDefinition} {condition : SequenceCondition}
    {trigger : Event} {history : List Event} {correlation : Correlation} {found : DetectionMatch}
    (matched : evaluateSequence rule condition trigger history correlation = some found) :
    IsEvidence trigger history found.evidence := by
  unfold evaluateSequence at matched
  dsimp only at matched
  split at matched
  · cases matched
  split at matched
  · cases matched
  obtain ⟨earlier, rest_found, rfl⟩ := Option.map_eq_some_iff.mp matched
  refine .of_unique (by simp) fun event member => ?_
  rcases List.mem_append.mp member with last | rest_member
  · rcases List.mem_cons.mp last with rfl | taken
    · exact .inl rfl
    · have ending := List.mem_of_mem_filter (mem_newestFirst_take taken)
      exact .inr (List.mem_of_mem_filter (List.mem_of_mem_filter ending))
  · exact .inr (List.mem_of_mem_filter (chooseSteps_subset rest_found event rest_member))

theorem evaluateFirstSeen_evidence {condition : FirstSeenCondition} {trigger : Event}
    {history : List Event} {correlation : Correlation} {found : DetectionMatch}
    (matched : evaluateFirstSeen condition trigger history correlation = some found) :
    IsEvidence trigger history found.evidence := by
  unfold evaluateFirstSeen at matched
  split at matched
  next current scope _ _ =>
    dsimp only at matched
    split at matched
    · cases matched
    split at matched
    · cases matched
    obtain rfl := Option.some.inj matched
    refine .of_unique (by simp) fun event member => ?_
    rcases List.mem_append.mp member with baseline | last
    · exact .inr (List.mem_of_mem_filter baseline)
    · exact .inl (List.mem_singleton.mp last)
  · cases matched

/-- **The evidence of a match is made of the trigger and its history.** -/
theorem evaluateRule_evidence {rule : RuleDefinition} {trigger : Event} {history : List Event}
    {found : DetectionMatch} (matched : evaluateRule rule trigger history = some found) :
    IsEvidence trigger history found.evidence := by
  unfold evaluateRule at matched
  split at matched
  · cases matched
  split at matched
  · cases matched
  next correlation _ =>
    have of_server : ∀ {evidence : List Event},
        IsEvidence trigger (history.filter (·.serverId = trigger.serverId)) evidence →
        IsEvidence trigger history evidence := fun evidence =>
      ⟨evidence.nonempty, evidence.unique, fun event member =>
        (evidence.known event member).imp_right List.mem_of_mem_filter⟩
    unfold evaluateCondition at matched
    split at matched
    · obtain rfl := Option.some.inj matched
      exact ⟨by simp, by simp, fun event member => .inl (List.mem_singleton.mp member)⟩
    · exact of_server (evaluateThreshold_evidence matched)
    · exact of_server (evaluateDistinct_evidence matched)
    · exact of_server (evaluateSequence_evidence matched)
    · exact of_server (evaluateFirstSeen_evidence matched)

theorem loadHistory_subset {events : List Event} {rule : RuleDefinition} {trigger event : Event}
    (member : event ∈ loadHistory events rule trigger) : event = trigger ∨ event ∈ events := by
  unfold loadHistory at member
  split at member
  · exact .inl (List.mem_singleton.mp member)
  · exact .inr (List.mem_of_mem_filter ((List.perm_insertionSort _ _).mem_iff.mp member))

end WolandGuard.Detection
