import Mathlib.Data.List.Chain
import Mathlib.Data.List.Forall2
import WolandGuard.Detection.FirstSeen

/-!
# Sequences as assignments

What a sequence condition asks for: a set of events for each step, large enough
for it, where every event of a step lies strictly before every event of the next
one (`Assignment`). The evaluator chooses greedily from the end. What it returns
is such an assignment (`assignment_of_evaluateSequence`), and it returns one
whenever there is any (`evaluateSequence_of_assignment`), because the newest
events of a step reach as late as any choice can.
-/

set_option autoImplicit false

namespace WolandGuard.Detection

open Foundations

/-! ## Assignments -/

/-- Events that a step of a sequence may use: those of the trigger's server and
group, inside the window. -/
def eligible (rule : RuleDefinition) (condition : SequenceCondition) (trigger event : Event) :
    Prop :=
  event.serverId = trigger.serverId ∧
    trigger.occurredAt - seconds condition.windowSeconds ≤ event.occurredAt ∧
    event.occurredAt ≤ trigger.occurredAt ∧
    fieldGroup event.normalized rule.correlationFields =
      fieldGroup trigger.normalized rule.correlationFields

/-- A set of events fills a step. -/
structure Fills (available : Event → Prop) (step : SequenceStep) (set : List Event) : Prop where
  nodup : set.Nodup
  enough : step.repeatAtLeast ≤ set.length
  available : ∀ event ∈ set, available event
  matching : ∀ event ∈ set, matchesEvent event.normalized step.toEventCondition = true

theorem Fills.nonempty {available : Event → Prop} {step : SequenceStep} {set : List Event}
    (fills : Fills available step set) : set ≠ [] := by
  apply List.ne_nil_of_length_pos
  have positive := step.repeatAtLeast_pos
  have enough := fills.enough
  omega

theorem Fills.imp {available usable : Event → Prop} {step : SequenceStep} {set : List Event}
    (fills : Fills available step set) (implies : ∀ event, available event → usable event) :
    Fills usable step set :=
  ⟨fills.nodup, fills.enough, fun event member => implies event (fills.available event member),
    fills.matching⟩

/-- A member of the second of two related lists has a partner in the first. -/
theorem exists_of_forall₂ {α β : Type} {related : α → β → Prop} {left : List α} {right : List β}
    (all : List.Forall₂ related left right) {b : β} (member : b ∈ right) :
    ∃ a ∈ left, related a b := by
  induction all with
  | nil => cases member
  | @cons head other left right here _ ih =>
      rcases List.mem_cons.mp member with rfl | rest
      · exact ⟨head, List.mem_cons_self, here⟩
      · obtain ⟨a, there, holds⟩ := ih rest
        exact ⟨a, List.mem_cons_of_mem _ there, holds⟩

/-- Related lists are related under what their members have in addition. -/
theorem forall₂_of_mem {α β : Type} {related implied : α → β → Prop} {left : List α}
    {right : List β} (all : List.Forall₂ related left right)
    (implies : ∀ a b, b ∈ right → related a b → implied a b) :
    List.Forall₂ implied left right := by
  induction all with
  | nil => exact .nil
  | cons here _ ih =>
      refine .cons (implies _ _ List.mem_cons_self here) (ih ?_)
      intro a b member
      exact implies a b (List.mem_cons_of_mem _ member)

/-- Every event of one set lies strictly before every event of the other. -/
def Before (earlier later : List Event) : Prop :=
  ∀ event ∈ earlier, ∀ other ∈ later, event.occurredAt < other.occurredAt

/-- **An assignment of events to the steps of a sequence**, with the trigger in
the last step. -/
structure Assignment (rule : RuleDefinition) (condition : SequenceCondition) (trigger : Event)
    (history : List Event) (sets : List (List Event)) : Prop where
  fills : List.Forall₂ (Fills fun event => event ∈ history ∧ eligible rule condition trigger event)
    condition.steps sets
  ordered : sets.IsChain Before
  ending : ∃ set ∈ sets.getLast?, trigger ∈ set

section Sets

variable {candidates : List Event} {steps : List SequenceStep} {sets : List (List Event)}

/-! ## From an assignment to the greedy choice -/

/-- Sets for the steps, from the last one back, make the steps feasible. -/
theorem feasible_of_sets (fills : List.Forall₂ (Fills (· ∈ candidates)) steps sets)
    (ordered : sets.IsChain fun later earlier => Before earlier later) {upperBound : Int}
    (below : ∀ set ∈ sets.head?, ∀ event ∈ set, event.occurredAt < upperBound) :
    StepsFeasible (candidates.map Event.normalized) steps upperBound := by
  induction fills generalizing upperBound with
  | nil => trivial
  | @cons step set steps sets fill fills ih =>
      obtain ⟨next, ordered⟩ := List.isChain_cons.mp ordered
      refine ⟨earliest set 0, ?_, ih ordered ?_⟩
      · rw [List.countP_map]
        have all : set.countP (between step (earliest set 0) upperBound ∘ Event.normalized) =
            set.length := by
          rw [List.countP_eq_length]
          intro event member
          have time := below set rfl event member
          have late := earliest_le member 0
          simp [between, fill.matching event member, time, late]
        calc step.repeatAtLeast ≤ set.length := fill.enough
          _ = set.countP (between step (earliest set 0) upperBound ∘ Event.normalized) := all.symm
          _ ≤ candidates.countP (between step (earliest set 0) upperBound ∘ Event.normalized) :=
              countP_le_of_nodup_subset _ fill.nodup fun event member _ =>
                fill.available event member
      · intro earlier head event member
        have before := next earlier head
        by_contra late
        have reached : ∀ other ∈ set, event.occurredAt < other.occurredAt :=
          fun other other_member => before event member other other_member
        have above : event.occurredAt + 1 ≤ earliest set 0 :=
          (le_earliest_iff fill.nonempty 0 _).mpr fun other other_member => by
            have := reached other other_member
            omega
        omega

/-! ## From the greedy choice to an assignment -/

/-- The newest events of a step fill it. -/
theorem fills_newest {step : SequenceStep} {upperBound : Int} (unique : candidates.Nodup)
    (long : ¬ ((newestFirst (stepCandidates candidates step upperBound)).take
      step.repeatAtLeast).length < step.repeatAtLeast) :
    Fills (· ∈ candidates) step
      ((newestFirst (stepCandidates candidates step upperBound)).take step.repeatAtLeast) := by
  have perm := newestFirst_perm (stepCandidates candidates step upperBound)
  refine ⟨?_, Nat.le_of_not_lt long, ?_, ?_⟩
  · exact (perm.nodup_iff.mpr (unique.filter _)).sublist (List.take_sublist _ _)
  · intro event member
    exact List.mem_of_mem_filter (mem_newestFirst_take member)
  · intro event member
    have holds := (List.mem_filter.mp (mem_newestFirst_take member)).2
    rw [Bool.and_eq_true] at holds
    exact holds.1

/-- **What the greedy loop takes fills the steps**, one strictly before the
other. -/
theorem sets_of_chooseSteps (unique : candidates.Nodup) {upperBound : Int} {chosen : List Event}
    (found : chooseSteps candidates steps upperBound = some chosen) :
    ∃ sets, List.Forall₂ (Fills (· ∈ candidates)) steps sets ∧
      (sets.IsChain fun later earlier => Before earlier later) ∧
      (∀ set ∈ sets.head?, ∀ event ∈ set, event.occurredAt < upperBound) ∧
      chosen = sets.flatten := by
  induction steps generalizing upperBound chosen with
  | nil =>
      obtain rfl := Option.some.inj found
      exact ⟨[], .nil, .nil, by simp, rfl⟩
  | cons step rest ih =>
      unfold chooseSteps at found
      dsimp only at found
      split at found
      · cases found
      next long =>
        obtain ⟨earlier, rest_found, rfl⟩ := Option.map_eq_some_iff.mp found
        obtain ⟨sets, fills, ordered, below, rfl⟩ := ih rest_found
        refine ⟨_ :: sets, .cons (fills_newest unique long) fills, ?_, ?_, rfl⟩
        · refine List.isChain_cons.mpr ⟨?_, ordered⟩
          intro set head event member other other_member
          have early := below set head event member
          have late := earliest_le other_member upperBound
          omega
        · intro set head event member
          obtain rfl := Option.some.inj head
          have holds := (List.mem_filter.mp (mem_newestFirst_take member)).2
          simp only [Bool.and_eq_true, decide_eq_true_eq] at holds
          exact holds.2

end Sets

/-! ## The evaluator -/

section Evaluator

variable {rule : RuleDefinition} {condition : SequenceCondition} {trigger : Event}
variable {history : List Event} {correlation : Correlation} {found : DetectionMatch}
variable {sets : List (List Event)}

/-- The history that a rule is evaluated on. -/
def sameServer (trigger : Event) (history : List Event) : List Event :=
  history.filter (·.serverId = trigger.serverId)

theorem mem_sequenceCandidates {event : Event} :
    event ∈ sequenceCandidates rule condition trigger (sameServer trigger history) ↔
      event ∈ history ∧ eligible rule condition trigger event := by
  simp only [sequenceCandidates, sameServer, eligible, inWindow, List.mem_filter, Bool.and_eq_true,
    decide_eq_true_eq, beq_iff_eq]
  tauto

/-- The events of the window of a sequence. -/
def windowOf (condition : SequenceCondition) (trigger : Event) (history : List Event) :
    List Event :=
  history.filter fun event =>
    inWindow (trigger.occurredAt - seconds condition.windowSeconds) trigger.occurredAt event

theorem sequenceCandidates_window :
    sequenceCandidates rule condition trigger (windowOf condition trigger history) =
      sequenceCandidates rule condition trigger history := by
  unfold sequenceCandidates windowOf
  rw [List.filter_filter]
  refine List.filter_congr ?_
  intro event _
  rw [Bool.and_right_comm, Bool.and_self]

/-- Events outside the window make no difference. -/
theorem evaluateSequence_window :
    evaluateSequence rule condition trigger (windowOf condition trigger history) correlation =
      evaluateSequence rule condition trigger history correlation := by
  unfold evaluateSequence
  rw [sequenceCandidates_window]

/-- The steps from the last one back. -/
theorem SequenceCondition.steps_reverse (condition : SequenceCondition) :
    condition.steps.reverse = condition.lastStep :: condition.steps.reverse.tail := by
  have nonempty : condition.steps.reverse ≠ [] := by
    simpa using condition.steps_nonempty
  rw [← List.cons_head_tail nonempty, List.head_reverse]
  rfl

/-- The trigger with the newest other events of the last step fills it. -/
theorem fills_ending {ending : List Event} {step : SequenceStep} {count : Nat}
    (unique : ending.Nodup) (last : trigger ∈ ending)
    (matching : ∀ event ∈ ending, matchesEvent event.normalized step.toEventCondition = true)
    (long : step.repeatAtLeast ≤
      (trigger :: (newestFirst (ending.filter (·.id ≠ trigger.id))).take count).length) :
    Fills (· ∈ ending) step
      (trigger :: (newestFirst (ending.filter (·.id ≠ trigger.id))).take count) := by
  have perm := newestFirst_perm (ending.filter (·.id ≠ trigger.id))
  have taken : ∀ event ∈ (newestFirst (ending.filter (·.id ≠ trigger.id))).take count,
      event ∈ ending ∧ event.id ≠ trigger.id := by
    intro event member
    obtain ⟨there, different⟩ := List.mem_filter.mp (mem_newestFirst_take member)
    exact ⟨there, of_decide_eq_true different⟩
  have available : ∀ event ∈ trigger ::
      (newestFirst (ending.filter (·.id ≠ trigger.id))).take count, event ∈ ending := by
    intro event member
    rcases List.mem_cons.mp member with rfl | later
    · exact last
    · exact (taken event later).1
  refine ⟨?_, long, available, fun event member => matching event (available event member)⟩
  rw [List.nodup_cons]
  refine ⟨fun again => (taken trigger again).2 rfl, ?_⟩
  exact (perm.nodup_iff.mpr (unique.filter _)).sublist (List.take_sublist _ _)

/-- Every event of the earlier sets lies before the last one. -/
theorem before_of_ordered {set : List Event} (nonempty : ∀ set ∈ sets, set ≠ [])
    (ordered : (set :: sets).IsChain fun later earlier => Before earlier later) :
    Before sets.flatten set := by
  induction sets generalizing set with
  | nil =>
      intro event member
      cases member
  | cons next rest ih =>
      obtain ⟨before, ordered⟩ := List.isChain_cons_cons.mp ordered
      intro event member other other_member
      rcases List.mem_append.mp member with here | earlier
      · exact before event here other other_member
      · obtain ⟨middle, middle_member⟩ :=
          List.exists_mem_of_ne_nil next (nonempty next List.mem_cons_self)
        have first := ih (fun set member => nonempty set (List.mem_cons_of_mem _ member)) ordered
          event earlier middle middle_member
        exact first.trans (before middle middle_member other other_member)

/-- Sets one strictly before the other have no event in common. -/
theorem nodup_flatten_of_ordered (nodup : ∀ set ∈ sets, set.Nodup)
    (nonempty : ∀ set ∈ sets, set ≠ [])
    (ordered : sets.IsChain fun later earlier => Before earlier later) : sets.flatten.Nodup := by
  induction sets with
  | nil => exact List.nodup_nil
  | cons set rest ih =>
      have nonempty_rest : ∀ set ∈ rest, set ≠ [] :=
        fun set member => nonempty set (List.mem_cons_of_mem _ member)
      rw [List.flatten_cons, List.nodup_append]
      refine ⟨nodup set List.mem_cons_self, ?_, ?_⟩
      · exact ih (fun set member => nodup set (List.mem_cons_of_mem _ member)) nonempty_rest
          ordered.tail
      · rintro event here _ earlier rfl
        exact absurd (before_of_ordered nonempty_rest ordered event earlier event here)
          (Int.lt_irrefl _)

/-- An assignment from the last step back. -/
theorem assignment_reverse_iff :
    Assignment rule condition trigger history sets.reverse ↔
      List.Forall₂ (Fills fun event => event ∈ history ∧ eligible rule condition trigger event)
        (condition.lastStep :: condition.steps.reverse.tail) sets ∧
      (sets.IsChain fun later earlier => Before earlier later) ∧
      ∃ set ∈ sets.head?, trigger ∈ set := by
  rw [← condition.steps_reverse]
  constructor
  · rintro ⟨fills, ordered, ending⟩
    refine ⟨?_, List.isChain_reverse.mp ordered, ?_⟩
    · rw [← List.forall₂_reverse_iff, List.reverse_reverse]
      exact fills
    · rwa [List.getLast?_reverse] at ending
  · rintro ⟨fills, ordered, ending⟩
    refine ⟨?_, List.isChain_reverse.mpr ordered, ?_⟩
    · rw [← List.forall₂_reverse_iff, List.reverse_reverse]
      exact fills
    · rwa [List.getLast?_reverse]

/-- Events with different ids are evidence as they are. -/
theorem uniqueEvents_perm {events : List Event} (unique : (events.map Event.id).Nodup) :
    (uniqueEvents events).Perm events := by
  have kept : events.pwFilter (·.id ≠ ·.id) = events :=
    List.pwFilter_eq_self.mpr (List.pairwise_map.mp unique)
  rw [uniqueEvents, kept]
  exact List.perm_insertionSort _ _

/-- Sets chosen one after the other, with the trigger in the last one, are an
assignment, and they have no event in common. -/
theorem assignment_of_chosen {last : List Event} {default : Int}
    (last_fills : Fills (fun event => event ∈ history ∧ eligible rule condition trigger event)
      condition.lastStep last)
    (fills : List.Forall₂
      (Fills fun event => event ∈ history ∧ eligible rule condition trigger event)
      condition.steps.reverse.tail sets)
    (ordered : sets.IsChain fun later earlier => Before earlier later)
    (below : ∀ set ∈ sets.head?, ∀ event ∈ set, event.occurredAt < earliest last default)
    (member : trigger ∈ last) :
    Assignment rule condition trigger history (last :: sets).reverse ∧
      (last :: sets).flatten.Nodup ∧ ∀ event ∈ (last :: sets).flatten, event ∈ history := by
  have all_fills := List.Forall₂.cons last_fills fills
  have chain : (last :: sets).IsChain fun later earlier => Before earlier later := by
    refine List.isChain_cons.mpr ⟨?_, ordered⟩
    intro set head event here other there
    have early := below set head event here
    have late := earliest_le there default
    omega
  have filled : ∀ set ∈ last :: sets, ∃ step ∈ condition.lastStep :: condition.steps.reverse.tail,
      Fills (fun event => event ∈ history ∧ eligible rule condition trigger event) step set := by
    intro set there
    exact exists_of_forall₂ all_fills there
  refine ⟨assignment_reverse_iff.mpr ⟨all_fills, chain, last, rfl, member⟩, ?_, ?_⟩
  · refine nodup_flatten_of_ordered ?_ ?_ chain
    · intro set there
      obtain ⟨step, _, fill⟩ := filled set there
      exact fill.nodup
    · intro set there
      obtain ⟨step, _, fill⟩ := filled set there
      exact fill.nonempty
  · intro event there
    obtain ⟨set, set_member, in_set⟩ := List.mem_flatten.mp there
    obtain ⟨step, _, fill⟩ := filled set set_member
    exact (fill.available event in_set).1

/-- **The evidence of a sequence is an assignment.** -/
theorem assignment_of_evaluateSequence (member : trigger ∈ history)
    (unique : (history.map Event.id).Nodup)
    (matched : evaluateSequence rule condition trigger (sameServer trigger history) correlation =
      some found) :
    ∃ sets, Assignment rule condition trigger history sets ∧ found.evidence.Perm sets.flatten := by
  have candidates_unique : (sequenceCandidates rule condition trigger
      (sameServer trigger history)).Nodup :=
    ((List.Nodup.of_map _ unique).filter _).filter _
  have available : ∀ event ∈ sequenceCandidates rule condition trigger (sameServer trigger history),
      event ∈ history ∧ eligible rule condition trigger event :=
    fun event => mem_sequenceCandidates.mp
  unfold evaluateSequence at matched
  dsimp only at matched
  generalize sequenceCandidates rule condition trigger (sameServer trigger history) = candidates
    at matched candidates_unique available
  split at matched
  · cases matched
  next ends =>
    split at matched
    · cases matched
    next long =>
      obtain ⟨earlier, rest_found, rfl⟩ := Option.map_eq_some_iff.mp matched
      obtain ⟨sets, fills, ordered, below, rfl⟩ := sets_of_chooseSteps candidates_unique rest_found
      -- the event with the id of the trigger is the trigger
      have last : trigger ∈ lastCandidates candidates condition.lastStep trigger := by
        rw [Bool.not_eq_true, Bool.not_eq_false'] at ends
        obtain ⟨event, event_member, same⟩ := List.any_eq_true.mp ends
        have there := (available event (List.mem_of_mem_filter event_member)).1
        obtain rfl := List.inj_on_of_nodup_map unique there member (of_decide_eq_true same)
        exact event_member
      have ending_matches : ∀ event ∈ lastCandidates candidates condition.lastStep trigger,
          matchesEvent event.normalized condition.lastStep.toEventCondition = true := by
        intro event event_member
        have holds := (List.mem_filter.mp event_member).2
        rw [Bool.and_eq_true] at holds
        exact holds.1
      have last_fills := fills_ending (candidates_unique.filter _) last ending_matches
        (Nat.le_of_not_lt long)
      have usable : ∀ event, event ∈ lastCandidates candidates condition.lastStep trigger →
          event ∈ history ∧ eligible rule condition trigger event :=
        fun event ending => available event (List.mem_of_mem_filter ending)
      obtain ⟨assignment, distinct, known⟩ := assignment_of_chosen (last_fills.imp usable)
        (fills.imp fun step set fill => fill.imp available) ordered below List.mem_cons_self
      refine ⟨_, assignment, ?_⟩
      refine (uniqueEvents_perm ?_).trans (List.reverse_perm (_ :: sets)).symm.flatten
      exact distinct.map_on fun event there other other_there same =>
        List.inj_on_of_nodup_map unique (known event there) (known other other_there) same

/-- The trigger of an assignment completes the last step. -/
theorem Assignment.completes (assignment : Assignment rule condition trigger history sets) :
    matchesEvent trigger.normalized condition.lastStep.toEventCondition = true := by
  rw [← List.reverse_reverse sets] at assignment
  obtain ⟨fills, _, last, head, member⟩ := assignment_reverse_iff.mp assignment
  generalize sets.reverse = back at fills head
  cases fills with
  | cons fill _ =>
      obtain rfl := Option.some.inj head
      exact fill.matching trigger member

/-- **Where there is an assignment, the evaluator matches.** -/
theorem evaluateSequence_of_assignment (unique : (history.map Event.id).Nodup)
    (assignment : Assignment rule condition trigger history sets) :
    (evaluateSequence rule condition trigger (sameServer trigger history) correlation).isSome =
      true := by
  rw [← List.reverse_reverse sets] at assignment
  obtain ⟨fills, ordered, last, head, member⟩ := assignment_reverse_iff.mp assignment
  generalize sets.reverse = back at fills ordered head
  have available : ∀ event ∈ last, event ∈ history ∧ eligible rule condition trigger event := by
    obtain ⟨step, _, fill⟩ := exists_of_forall₂ fills (List.mem_of_mem_head? head)
    exact fill.available
  obtain ⟨in_history, _, from_start, _, _⟩ := available trigger member
  have feasible : StepsFeasible ((sequenceCandidates rule condition trigger
      (sameServer trigger history)).map Event.normalized)
        (condition.lastStep :: condition.steps.reverse.tail) (trigger.occurredAt + 1) := by
    refine feasible_of_sets (fills.imp fun step set fill => fill.imp fun event usable =>
      mem_sequenceCandidates.mpr usable) ordered ?_
    intro set set_head event event_member
    obtain rfl := Option.some.inj (head.symm.trans set_head)
    have until_trigger := (available event event_member).2.2.2.1
    omega
  obtain ⟨bound, enough, feasible⟩ := feasible
  have window : ∀ event ∈ windowOf condition trigger (sameServer trigger history),
      inWindow (trigger.occurredAt - seconds condition.windowSeconds) trigger.occurredAt event =
        true := fun event event_member => (List.mem_filter.mp event_member).2
  have in_window : trigger ∈ windowOf condition trigger (sameServer trigger history) := by
    refine List.mem_filter.mpr ⟨List.mem_filter.mpr ⟨in_history, by simp⟩, ?_⟩
    simp [inWindow, from_start]
  have completes := assignment.completes
  rw [← evaluateSequence_window, evaluateSequence_isSome window in_window
    (unique.sublist ((List.filter_sublist.trans List.filter_sublist).map Event.id)) completes]
  unfold SequenceFires
  rw [← sequenceCandidates_map window, sequenceCandidates_window]
  refine ⟨bound, ?_, enough, feasible⟩
  -- an event of the last step lies between the bound and the trigger
  have positive := condition.lastStep.repeatAtLeast_pos
  obtain ⟨event, _, counted⟩ := List.countP_pos_iff.mp (Nat.lt_of_lt_of_le positive enough)
  simp only [between, Bool.and_eq_true, decide_eq_true_eq] at counted
  change bound ≤ trigger.occurredAt
  omega

/-- An enabled rule with a sequence condition matches as its evaluator does. -/
theorem evaluateRule_sequence (shape : rule.condition = .sequence condition)
    (enabled : rule.enabled = true)
    (correlates : correlationOf rule trigger.normalized = some correlation)
    (completes : matchesEvent trigger.normalized condition.lastStep.toEventCondition = true) :
    evaluateRule rule trigger history =
      evaluateSequence rule condition trigger (sameServer trigger history) correlation := by
  have triggers : canTrigger rule trigger.normalized = true := by
    rw [canTrigger, shape]
    exact completes
  unfold evaluateRule
  simp only [enabled, triggers, correlates, Bool.not_true, Bool.or_self, Bool.false_eq_true,
    if_false, evaluateCondition, shape]
  rfl

/-- **The greedy evaluator is exact.** It matches if and only if events can be
assigned to the steps, its evidence is such an assignment of pairwise different
events, and a rule that can correlate the trigger matches as its evaluator
does. -/
theorem evaluateSequence_exact (member : trigger ∈ history)
    (unique : (history.map Event.id).Nodup) :
    ((evaluateSequence rule condition trigger (sameServer trigger history) correlation).isSome =
        true ↔ ∃ sets, Assignment rule condition trigger history sets) ∧
    (∀ found, evaluateSequence rule condition trigger (sameServer trigger history) correlation =
        some found →
      (found.evidence.map Event.id).Nodup ∧
        ∃ sets, Assignment rule condition trigger history sets ∧
          found.evidence.Perm sets.flatten) ∧
    (rule.condition = .sequence condition → rule.enabled = true →
      (correlationOf rule trigger.normalized).isSome = true →
        ((evaluateRule rule trigger history).isSome = true ↔
          ∃ sets, Assignment rule condition trigger history sets)) := by
  have matches_iff : ∀ correlation, (evaluateSequence rule condition trigger
      (sameServer trigger history) correlation).isSome = true ↔
        ∃ sets, Assignment rule condition trigger history sets := by
    intro correlation
    constructor
    · intro matched
      obtain ⟨found, matched⟩ := Option.isSome_iff_exists.mp matched
      obtain ⟨sets, assignment, _⟩ := assignment_of_evaluateSequence member unique matched
      exact ⟨sets, assignment⟩
    · rintro ⟨sets, assignment⟩
      exact evaluateSequence_of_assignment unique assignment
  refine ⟨matches_iff correlation, ?_, ?_⟩
  · intro found matched
    exact ⟨(evaluateSequence_evidence matched).unique,
      assignment_of_evaluateSequence member unique matched⟩
  · intro shape enabled correlates
    obtain ⟨correlation, correlates⟩ := Option.isSome_iff_exists.mp correlates
    constructor
    · intro matched
      have triggers : canTrigger rule trigger.normalized = true := by
        by_contra cannot
        rw [Bool.not_eq_true] at cannot
        simp [evaluateRule, cannot] at matched
      rw [canTrigger, shape] at triggers
      rw [evaluateRule_sequence shape enabled correlates triggers] at matched
      exact (matches_iff correlation).mp matched
    · rintro ⟨sets, assignment⟩
      rw [evaluateRule_sequence shape enabled correlates assignment.completes]
      exact (matches_iff correlation).mpr ⟨sets, assignment⟩

end Evaluator

/-! ## A login after failures -/

/-- Three failed logins. -/
def threeFailures : SequenceStep :=
  { eventType := .sshAuthenticationFailed
    filters := []
    repeatAtLeast := 3
    repeatAtLeast_pos := Nat.succ_pos 2 }

/-- A login. -/
def oneLogin : SequenceStep :=
  { eventType := .sshLoginSucceeded
    filters := []
    repeatAtLeast := 1
    repeatAtLeast_pos := Nat.succ_pos 0 }

/-- The condition of the shipped rule `ssh_success_after_failures`. -/
def successAfterFailures : SequenceCondition where
  windowSeconds := 900
  steps := [threeFailures, oneLogin]
  windowSeconds_pos := Nat.succ_pos 899
  steps_two := Nat.le_refl 2

def successTitle : String := "Успешный SSH-вход после неудачных попыток"

def successTitleEn : String := "Successful SSH login after failed attempts"

theorem successTitle_length : 1 ≤ successTitle.length ∧ successTitle.length ≤ 255 := by
  decide

theorem successTitleEn_length :
    ∀ text ∈ some successTitleEn, 1 ≤ text.length ∧ text.length ≤ 255 := by
  decide

theorem success_fieldListsUnique :
    ∀ fields ∈ [["source_ip"], ["actor"]] :: (Condition.sequence successAfterFailures).fieldLists,
      fields.Nodup := by
  decide

/-- The shipped rule. -/
def sshSuccessAfterFailures : RuleDefinition where
  ruleKey := "ssh_success_after_failures"
  version := 2
  enabled := true
  severity := .critical
  title := successTitle
  description := "Успешному входу предшествуют минимум три ошибки для той же корреляции."
  explanation := "Успех после серии ошибок может означать компрометацию учётных данных."
  recommendation := "Срочно проверьте пользователя, адрес источника и активность после входа."
  titleEn := some successTitleEn
  descriptionEn :=
    some "A successful login is preceded by at least three failures for the same correlation."
  explanationEn := some "Success after a run of failures can mean the credentials were compromised."
  recommendationEn :=
    some "Urgently review the user, the source address and the activity after the login."
  mitreAttackIds := ["T1110", "T1078"]
  condition := .sequence successAfterFailures
  correlationFields := [["source_ip"], ["actor"]]
  version_pos := Nat.zero_lt_two
  title_length := successTitle_length
  titleEn_length := successTitleEn_length
  correlationFields_nonempty := List.cons_ne_nil _ _
  fieldListsUnique := success_fieldListsUnique

/-- Three failures and a login of root from one address, one a second. -/
def guessedPassword : List Event :=
  [⟨1, 1, 0, failureAt 1⟩, ⟨2, 1, 0, failureAt 2⟩, ⟨3, 1, 0, failureAt 3⟩,
    ⟨4, 1, 0, loginAt 4 4 "203.0.113.7"⟩]

/-- The login completes the sequence. -/
theorem evaluateSequence_exact_guessed_password :
    ∃ sets, Assignment sshSuccessAfterFailures successAfterFailures
      ⟨4, 1, 0, loginAt 4 4 "203.0.113.7"⟩ guessedPassword sets := by
  have member : (⟨4, 1, 0, loginAt 4 4 "203.0.113.7"⟩ : Event) ∈ guessedPassword :=
    .tail _ (.tail _ (.tail _ (.head _)))
  have unique : (guessedPassword.map Event.id).Nodup := by decide
  obtain ⟨_, _, exact_rule⟩ := @evaluateSequence_exact sshSuccessAfterFailures
    successAfterFailures _ guessedPassword [] member unique
  exact (exact_rule rfl rfl (by decide +kernel)).mp (by decide +kernel)

end WolandGuard.Detection
